import RestClient.Client.ConverterPlan
import RestClient.Proofs.Code.ExprPlaces
import RestClient.Proofs.Code.Taking
import RestClient.Proofs.Code.Unplaced
import RestClient.Proofs.Interface.Suffixes
import Mathlib.Data.List.Nodup
import Mathlib.Data.List.Perm.Basic

/-!
# Settings by keys

The arguments of a client are a map: an entry says a value for one of five keys, and the value of a
key is the last one that is said for it. Every entry has to say something, those of a key that is
repeated too, and the key of the converter cannot be left out. So entries with different keys can
change places: all that changes of the configuration is the places in it.

The walk along the entries is taken apart once: a step sets what its entry says, and so every field
holds the last of what is said for it, whatever the other fields are.

## Main definitions

- `KeyedValue`, `Says` — what an entry says
- `Settings.set` — the settings with what one more entry says
- `lastOf` — the last value that is said for a key
- `HoldsKey` — a field of the settings holds the values for one key
- `entryKeys` — the keys of entries
- `ListsEntries` — trees that are entries with commas between them
- `PlainEntry` — entries whose values are single tokens
- `ClientConfig.Collects` — a configuration is what settings say together
- `ClientConfig.unplaced` — a configuration without the places in it

## Main results

- `Settings.add_eq_ok` — one step of the walk
- `Settings.foldlM_add_eq_ok`, `Settings.foldl_set` — the whole walk
- `ClientConfig.parse_eq_ok` — the configurations of arguments
- `ListsEntries.of_plain` — entries that are listed in every order
- `ListsEntries.parse_perm` — the same entries in another order
- `client_configuration_keyed` — what entries say by their keys
-/

namespace RestClient

open Code (Expr MetaItem Nested Parser Span Tokens TypeExpr skipGaps)

/-! ### What an entry says -/

/-- A value for one of the five keys. -/
inductive KeyedValue where
  | baseUrl (text : String)
  | suffix (text : String)
  | client (type : TypeExpr)
  | converter (type : TypeExpr)
  | component (model : ComponentModel) (place : Span)

namespace KeyedValue

/-- The key that a value is for. -/
def key : KeyedValue → String
  | baseUrl _ => "base_url"
  | suffix _ => "suffix"
  | client _ => "client"
  | converter _ => "converter"
  | component _ _ => "component"

/-- The address that is said. -/
def baseUrl? : KeyedValue → Option String
  | baseUrl text => some text
  | _ => none

/-- The suffix that is said. -/
def suffix? : KeyedValue → Option String
  | suffix text => some text
  | _ => none

/-- The type of the transport that is said. -/
def client? : KeyedValue → Option TypeExpr
  | client type => some type
  | _ => none

/-- The type of the converter that is said. -/
def converter? : KeyedValue → Option TypeExpr
  | converter type => some type
  | _ => none

/-- The component model that is said, and where. -/
def component? : KeyedValue → Option (ComponentModel × Span)
  | component model place => some (model, place)
  | _ => none

/-- A value without the places in it. -/
def unplaced : KeyedValue → KeyedValue
  | client type => client type.unplaced
  | converter type => converter type.unplaced
  | component model _ => component model .nowhere
  | setting => setting

end KeyedValue

/-- What an expression says as the value of a key: an address and a suffix are strings, types are
paths, and a component model is its name or a string with it. -/
inductive SaidBy (value : Expr) : KeyedValue → Prop
  | baseUrl {text : String} (h : value.form = .string text) : SaidBy value (.baseUrl text)
  | suffix {text : String} (h : value.form = .string text) (hne : text ≠ "")
      (hgap : skipGaps (suffixGap text) = []) : SaidBy value (.suffix text)
  | client {p : Code.PathExpr} (h : value.form = .path p) :
      SaidBy value (.client (p.toType value.tokens))
  | converter {p : Code.PathExpr} (h : value.form = .path p) :
      SaidBy value (.converter (p.toType value.tokens))
  | componentName {model : ComponentModel} {p : Code.PathExpr} (h : value.form = .path p)
      (hname : p.ident? = some model.text) : SaidBy value (.component model value.span)
  | componentText {model : ComponentModel} (h : value.form = .string model.text) :
      SaidBy value (.component model value.span)

/-- An entry says a value for a key: it has the key and an equals sign, and then what says it. -/
def Says (entry : MetaItem) (setting : KeyedValue) : Prop :=
  entry.path.ident? = some setting.key ∧
    ∃ value, entry.form = .nameValue value ∧ SaidBy value setting

theorem ComponentModel.ofName?_eq_some {name : String} {model : ComponentModel} :
    ComponentModel.ofName? name = some model ↔ name = model.text := by
  constructor
  · intro h
    have hfound := List.find?_some h
    exact (beq_iff_eq.mp hfound).symm
  · rintro rfl
    cases model <;> rfl

theorem typeSetting_eq_ok (key : String) {value : Expr} {type : TypeExpr} :
    typeSetting key value = .ok type ↔
      ∃ p, value.form = .path p ∧ p.toType value.tokens = type := by
  unfold typeSetting
  cases value.form <;> simp

theorem componentSetting_eq_ok {value : Expr} {setting : ComponentModel × Span} :
    componentSetting value = .ok setting ↔ ∃ model,
      (value.form = .string model.text ∨ ∃ p, value.form = .path p ∧ p.ident? = some model.text) ∧
        setting = (model, value.span) := by
  constructor
  · intro h
    unfold componentSetting at h
    dsimp only at h
    split at h
    · next model hmodel =>
      obtain ⟨name, hname, hfound⟩ := Option.bind_eq_some_iff.mp hmodel
      obtain rfl := ComponentModel.ofName?_eq_some.mp hfound
      refine ⟨model, ?_, (Except.ok.inj h).symm⟩
      split at hname
      · next p hform => exact .inr ⟨p, hform, hname⟩
      · next text hform =>
        rw [← Option.some.inj hname]
        exact .inl hform
      · cases hname
    · cases h
  · rintro ⟨model, hform | ⟨p, hform, hname⟩, rfl⟩
    · have hfound := ComponentModel.ofName?_eq_some.mpr (Eq.refl model.text)
      unfold componentSetting
      simp only [hform, Option.bind_some, hfound]
    · have hfound := ComponentModel.ofName?_eq_some.mpr (Eq.refl model.text)
      unfold componentSetting
      simp only [hform, hname, Option.bind_some, hfound]

/-! ### The walk along the entries -/

/-- The settings with what one more entry says. -/
def Settings.set (s : Settings) : KeyedValue → Settings
  | .baseUrl text => { s with baseUrl := some text }
  | .suffix text => { s with suffix := some text }
  | .client type => { s with client := some type }
  | .converter type => { s with converter := some type }
  | .component model place => { s with component := some (model, place) }

theorem Settings.add_eq_set {s : Settings} {entry : MetaItem} {setting : KeyedValue}
    (h : Says entry setting) : s.add entry = .ok (s.set setting) := by
  obtain ⟨hkey, value, hform, hsaid⟩ := h
  unfold Settings.add
  rw [hform, hkey]
  cases hsaid with
  | baseUrl h =>
    simp only [KeyedValue.key, (stringSetting_eq_ok "base_url").mpr h]
    rfl
  | suffix h hne hgap =>
    simp only [KeyedValue.key, suffixSetting_eq_ok.mpr ⟨h, hne, hgap⟩]
    rfl
  | client h =>
    simp only [KeyedValue.key, (typeSetting_eq_ok "client").mpr ⟨_, h, rfl⟩]
    rfl
  | converter h =>
    simp only [KeyedValue.key, (typeSetting_eq_ok "converter").mpr ⟨_, h, rfl⟩]
    rfl
  | componentName h hname =>
    simp only [KeyedValue.key, componentSetting_eq_ok.mpr ⟨_, .inr ⟨_, h, hname⟩, rfl⟩]
    rfl
  | componentText h =>
    simp only [KeyedValue.key, componentSetting_eq_ok.mpr ⟨_, .inl h, rfl⟩]
    rfl

/-- A step of the walk sets what its entry says. -/
theorem Settings.add_eq_ok {s s' : Settings} {entry : MetaItem} :
    s.add entry = .ok s' ↔ ∃ setting, Says entry setting ∧ s' = s.set setting := by
  constructor
  · intro h
    unfold Settings.add at h
    split at h
    · next value hform =>
      split at h
      · next hkey =>
        obtain ⟨text, htext, hset⟩ := Outcome.bind_eq_ok.mp h
        exact ⟨.baseUrl text, ⟨hkey, value, hform, .baseUrl ((stringSetting_eq_ok _).mp htext)⟩,
          (Except.ok.inj hset).symm⟩
      · next hkey =>
        obtain ⟨text, htext, hset⟩ := Outcome.bind_eq_ok.mp h
        obtain ⟨hstring, hne, hgap⟩ := suffixSetting_eq_ok.mp htext
        exact ⟨.suffix text, ⟨hkey, value, hform, .suffix hstring hne hgap⟩,
          (Except.ok.inj hset).symm⟩
      · next hkey =>
        obtain ⟨type, htype, hset⟩ := Outcome.bind_eq_ok.mp h
        obtain ⟨p, hpath, rfl⟩ := (typeSetting_eq_ok _).mp htype
        exact ⟨.client _, ⟨hkey, value, hform, .client hpath⟩, (Except.ok.inj hset).symm⟩
      · next hkey =>
        obtain ⟨type, htype, hset⟩ := Outcome.bind_eq_ok.mp h
        obtain ⟨p, hpath, rfl⟩ := (typeSetting_eq_ok _).mp htype
        exact ⟨.converter _, ⟨hkey, value, hform, .converter hpath⟩, (Except.ok.inj hset).symm⟩
      · next hkey =>
        obtain ⟨setting, hsetting, hset⟩ := Outcome.bind_eq_ok.mp h
        obtain ⟨model, hmodel, rfl⟩ := componentSetting_eq_ok.mp hsetting
        refine ⟨.component model value.span, ⟨hkey, value, hform, ?_⟩, (Except.ok.inj hset).symm⟩
        rcases hmodel with hstring | ⟨p, hpath, hname⟩
        · exact .componentText hstring
        · exact .componentName hpath hname
      · cases h
    · cases h
  · rintro ⟨setting, hsays, rfl⟩
    exact add_eq_set hsays

/-- The last value that is said for a key. -/
def lastOf {α : Type} (said? : KeyedValue → Option α) (settings : List KeyedValue) : Option α :=
  (settings.filterMap said?).getLast?

theorem lastOf_cons {α : Type} (said? : KeyedValue → Option α) (setting : KeyedValue)
    (rest : List KeyedValue) :
    lastOf said? (setting :: rest) = (lastOf said? rest).or (said? setting) := by
  unfold lastOf
  cases h : said? setting with
  | none => rw [List.filterMap_cons_none h, Option.or_none]
  | some a => rw [List.filterMap_cons_some h, List.getLast?_cons, Option.or_some]

/-- A field holds the values for one key: it takes what is said for this key, and what is said for
another one leaves it as it is. Without places the values are what `erase` makes of them. -/
structure HoldsKey {α : Type} (field : Settings → Option α) (said? : KeyedValue → Option α)
    (key : String) (erase : α → α) : Prop where
  field_set : ∀ s setting, field (Settings.set s setting) = (said? setting).or (field s)
  key_eq : ∀ setting a, said? setting = some a → setting.key = key
  unplaced : ∀ setting, said? setting.unplaced = (said? setting).map erase

theorem holds_baseUrl : HoldsKey Settings.baseUrl KeyedValue.baseUrl? "base_url" id where
  field_set s setting := by cases setting <;> rfl
  key_eq setting a h := by cases setting <;> first | rfl | cases h
  unplaced setting := by cases setting <;> rfl

theorem holds_suffix : HoldsKey Settings.suffix KeyedValue.suffix? "suffix" id where
  field_set s setting := by cases setting <;> rfl
  key_eq setting a h := by cases setting <;> first | rfl | cases h
  unplaced setting := by cases setting <;> rfl

theorem holds_client : HoldsKey Settings.client KeyedValue.client? "client" TypeExpr.unplaced where
  field_set s setting := by cases setting <;> rfl
  key_eq setting a h := by cases setting <;> first | rfl | cases h
  unplaced setting := by cases setting <;> rfl

theorem holds_converter :
    HoldsKey Settings.converter KeyedValue.converter? "converter" TypeExpr.unplaced where
  field_set s setting := by cases setting <;> rfl
  key_eq setting a h := by cases setting <;> first | rfl | cases h
  unplaced setting := by cases setting <;> rfl

theorem holds_component : HoldsKey Settings.component KeyedValue.component? "component"
    fun said => (said.1, .nowhere) where
  field_set s setting := by cases setting <;> rfl
  key_eq setting a h := by cases setting <;> first | rfl | cases h
  unplaced setting := by cases setting <;> rfl

/-- A field ends with the last of what is said for its key. -/
theorem HoldsKey.foldl_set {α : Type} {field : Settings → Option α} {said? : KeyedValue → Option α}
    {key : String} {erase : α → α} (h : HoldsKey field said? key erase)
    (settings : List KeyedValue) (s : Settings) :
    field (settings.foldl Settings.set s) = (lastOf said? settings).or (field s) := by
  induction settings generalizing s with
  | nil => rfl
  | cons setting rest ih => rw [List.foldl_cons, ih, h.field_set, lastOf_cons, Option.or_assoc]

/-- What settings leave behind in an empty map. -/
theorem Settings.foldl_set (settings : List KeyedValue) :
    settings.foldl Settings.set .empty =
      ⟨lastOf KeyedValue.baseUrl? settings, lastOf KeyedValue.suffix? settings,
        lastOf KeyedValue.client? settings, lastOf KeyedValue.converter? settings,
        lastOf KeyedValue.component? settings⟩ := by
  have hbase := holds_baseUrl.foldl_set settings .empty
  have hsuffix := holds_suffix.foldl_set settings .empty
  have hclient := holds_client.foldl_set settings .empty
  have hconverter := holds_converter.foldl_set settings .empty
  have hcomponent := holds_component.foldl_set settings .empty
  generalize settings.foldl Settings.set .empty = s at *
  obtain ⟨baseUrl, suffix, client, converter, component⟩ := s
  simp only [empty, Option.or_none] at *
  rw [hbase, hsuffix, hclient, hconverter, hcomponent]

/-- The walk goes on as long as the entries say something, and sets what they say. -/
theorem Settings.foldlM_add_eq_ok {entries : List MetaItem} {s s' : Settings} :
    entries.foldlM Settings.add s = .ok s' ↔
      ∃ settings, List.Forall₂ Says entries settings ∧ s' = settings.foldl Settings.set s := by
  induction entries generalizing s with
  | nil => simp [pure, Except.pure, eq_comm]
  | cons entry rest ih =>
    rw [Outcome.foldlM_cons_eq_ok]
    constructor
    · rintro ⟨middle, hmiddle, hrest⟩
      obtain ⟨setting, hsays, rfl⟩ := Settings.add_eq_ok.mp hmiddle
      obtain ⟨settings, hall, rfl⟩ := ih.mp hrest
      exact ⟨setting :: settings, .cons hsays hall, rfl⟩
    · rintro ⟨settings, hall, rfl⟩
      obtain ⟨setting, more, hsays, hmore, rfl⟩ := List.forall₂_cons_left_iff.mp hall
      exact ⟨s.set setting, add_eq_set hsays, ih.mpr ⟨more, hmore, rfl⟩⟩

/-! ### Configurations -/

/-- The keys of entries, in their order. -/
def entryKeys (entries : List MetaItem) : List String :=
  entries.filterMap fun entry => entry.path.ident?

/-- A configuration is what settings say together: every field is the last value that is said for
its key, or what stands for it where none is said. For the converter nothing can stand. -/
structure ClientConfig.Collects (config : ClientConfig) (settings : List KeyedValue) : Prop where
  baseUrl : config.baseUrl = (lastOf KeyedValue.baseUrl? settings).getD ""
  suffix : config.suffix = (lastOf KeyedValue.suffix? settings).getD "Impl"
  client : config.client = (lastOf KeyedValue.client? settings).getD defaultClient
  converter : lastOf KeyedValue.converter? settings = some config.converter
  component : (config.component, config.componentSpan) =
    (lastOf KeyedValue.component? settings).getD (.standalone, .nowhere)

theorem Settings.finish_eq_ok {settings : List KeyedValue} {config : ClientConfig} :
    (settings.foldl Settings.set .empty).finish = .ok config ↔ config.Collects settings := by
  rw [foldl_set, finish]
  dsimp only
  constructor
  · intro h
    split at h
    · cases h
    · next converter hconverter =>
      obtain rfl := Except.ok.inj h
      exact ⟨rfl, rfl, rfl, hconverter, rfl⟩
  · rintro ⟨hbase, hsuffix, hclient, hconverter, hcomponent⟩
    obtain ⟨baseUrl, suffix, client, converter, component, place⟩ := config
    dsimp only at hbase hsuffix hclient hconverter hcomponent
    rw [hconverter, ← hbase, ← hclient, ← hcomponent, hsuffix]
    rfl

theorem ClientConfig.ofEntries_eq_ok {entries : List MetaItem} {config : ClientConfig} :
    ClientConfig.ofEntries entries = .ok config ↔
      ∃ settings, List.Forall₂ Says entries settings ∧ config.Collects settings := by
  unfold ofEntries
  rw [Outcome.bind_eq_ok]
  constructor
  · rintro ⟨s, hwalk, hfinish⟩
    obtain ⟨settings, hall, rfl⟩ := Settings.foldlM_add_eq_ok.mp hwalk
    exact ⟨settings, hall, Settings.finish_eq_ok.mp hfinish⟩
  · rintro ⟨settings, hall, hcollects⟩
    exact ⟨_, Settings.foldlM_add_eq_ok.mpr ⟨settings, hall, rfl⟩,
      Settings.finish_eq_ok.mpr hcollects⟩

theorem entryKeys_eq {entries : List MetaItem} {settings : List KeyedValue}
    (h : List.Forall₂ Says entries settings) : entryKeys entries = settings.map KeyedValue.key := by
  induction h with
  | nil => rfl
  | @cons entry setting entries settings hsays _ ih =>
    have hcons : entryKeys (entry :: entries) = setting.key :: entryKeys entries :=
      List.filterMap_cons_some hsays.1
    rw [hcons, ih, List.map_cons]

theorem exists_lastOf_converter {settings : List KeyedValue} :
    (∃ type, lastOf KeyedValue.converter? settings = some type) ↔
      "converter" ∈ settings.map KeyedValue.key := by
  have hkey : ∀ setting : KeyedValue, setting.converter? ≠ none ↔ setting.key = "converter" := by
    intro setting
    cases setting <;> simp [KeyedValue.converter?, KeyedValue.key]
  unfold lastOf
  rw [← Option.isSome_iff_exists, List.getLast?_isSome, ne_eq, List.filterMap_eq_nil_iff,
    List.mem_map]
  simp only [not_forall, exists_prop, ← hkey, ne_eq]

theorem ClientConfig.exists_collects {settings : List KeyedValue} :
    (∃ config : ClientConfig, config.Collects settings) ↔
      "converter" ∈ settings.map KeyedValue.key := by
  rw [← exists_lastOf_converter]
  constructor
  · rintro ⟨config, h⟩
    exact ⟨config.converter, h.converter⟩
  · rintro ⟨type, htype⟩
    exact ⟨⟨_, _, _, type, _, _⟩, rfl, rfl, rfl, htype, rfl⟩

theorem ClientConfig.exists_ofEntries {entries : List MetaItem} :
    (∃ config, ClientConfig.ofEntries entries = .ok config) ↔
      (∀ entry ∈ entries, ∃ setting, Says entry setting) ∧ "converter" ∈ entryKeys entries := by
  simp only [ofEntries_eq_ok]
  rw [← Outcome.exists_forall₂_iff]
  constructor
  · rintro ⟨config, settings, hall, hcollects⟩
    refine ⟨⟨settings, hall⟩, ?_⟩
    rw [entryKeys_eq hall]
    exact exists_collects.mp ⟨config, hcollects⟩
  · rintro ⟨⟨settings, hall⟩, hconverter⟩
    rw [entryKeys_eq hall] at hconverter
    obtain ⟨config, hcollects⟩ := exists_collects.mpr hconverter
    exact ⟨config, settings, hall, hcollects⟩

/-! ### Arguments -/

/-- The trees are entries with commas between them. -/
def ListsEntries (trees : Tokens) (entries : List MetaItem) : Prop :=
  Parser.runAll (Parser.commaList (Parser.metaItem (Nested.ofTokens trees))) trees .nowhere =
    .ok entries

/-- Each of the entries stands between two commas, or the last one behind the last comma. -/
theorem ListsEntries.separated {trees : Tokens} {entries : List MetaItem}
    (h : ListsEntries trees entries) :
    Parser.Separated (fun front entry => front ≠ [] ∧ Code.SameEnds entry.tokens front)
      trees entries := by
  have hitem : ∀ rest, Parser.Meets (Parser.metaItem (Nested.ofTokens trees)) trees rest
      fun front _ entry => front ≠ [] ∧ Code.SameEnds entry.tokens front := by
    refine fun rest => Parser.meets_metaItem.mono fun front written entry _ hentry => ?_
    obtain ⟨⟨hends, hne⟩, htokens, -⟩ := hentry
    exact ⟨hne, htokens ▸ hends⟩
  obtain ⟨-, hseparated⟩ := (Parser.Meets.commaList_separated hitem).of_runAll h
  exact hseparated

/-- An entry whose value is a single token. -/
inductive PlainEntry : Tokens → MetaItem → Prop
  | intro {name : String} {tree : Code.TokenTree} {form : Code.ExprForm} (span place : Span)
      (joint : Bool) (hname : Parser.keywords.contains name = false)
      (h : Parser.IsOperand tree form) :
      PlainEntry [.ident name span, .punct '=' joint place, tree]
        ⟨Parser.namePath name, .nameValue ⟨form, [tree]⟩,
          [.ident name span, .punct '=' joint place, tree]⟩

theorem PlainEntry.takes (n : Nat) {front after : Tokens} {entry : MetaItem}
    (h : PlainEntry front entry) (hafter : Parser.Breaks after) :
    front ≠ [] ∧ Parser.Takes (Parser.metaItem (.ofDepth (n + 2))) front after entry := by
  cases h with
  | intro span place joint hname h =>
    exact ⟨List.cons_ne_nil _ _, Parser.takes_metaItem_operand n hname h hafter⟩

/-- Entries whose values are single tokens can be listed in every order. -/
theorem ListsEntries.of_plain {trees : Tokens} {entries : List MetaItem}
    (h : Parser.Separated PlainEntry trees entries) : ListsEntries trees entries := by
  obtain ⟨n, hdepth⟩ := Parser.exists_ofDepth trees
  unfold ListsEntries
  rw [hdepth]
  exact (Parser.takes_commaList (fun front entry after hentry hafter =>
    hentry.takes n hafter) h).runAll .nowhere

/-- The configuration of arguments is that of the entries that they are. -/
theorem ClientConfig.parse_eq_ok {trees : Tokens} {config : ClientConfig} :
    ClientConfig.parse trees = .ok config ↔
      ∃ entries, ListsEntries trees entries ∧ ClientConfig.ofEntries entries = .ok config := by
  unfold ListsEntries Parser.runAll ClientConfig.parse
  dsimp only
  split
  · simp [*]
  · next items cursor hrun =>
    have hrest := Parser.rest_eq_nil_of_commaList hrun
    simp only [hrun, hrest]
    cases cursor.leftover with
    | none =>
      cases hentries : ClientConfig.ofEntries items <;> simp [Parser.leftoverFault, hentries]
    | some fault => cases ClientConfig.ofEntries items <;> simp

theorem ListsEntries.parse_eq_ok {trees : Tokens} {entries : List MetaItem}
    (h : ListsEntries trees entries) {config : ClientConfig} :
    ClientConfig.parse trees = .ok config ↔ ClientConfig.ofEntries entries = .ok config := by
  rw [ClientConfig.parse_eq_ok]
  constructor
  · rintro ⟨entries', hlists, hentries⟩
    obtain rfl : entries' = entries := Except.ok.inj (hlists.symm.trans h)
    exact hentries
  · exact fun hentries => ⟨entries, h, hentries⟩

/-! ### Entries in another order -/

/-- A configuration without the places in it. -/
def ClientConfig.unplaced (config : ClientConfig) : ClientConfig :=
  { config with
    client := config.client.unplaced
    converter := config.converter.unplaced
    componentSpan := .nowhere }

theorem KeyedValue.key_unplaced (setting : KeyedValue) : setting.unplaced.key = setting.key := by
  cases setting <;> rfl

theorem map_key_unplaced (settings : List KeyedValue) :
    (settings.map KeyedValue.unplaced).map KeyedValue.key = settings.map KeyedValue.key := by
  rw [List.map_map]
  exact List.map_congr_left fun setting _ => setting.key_unplaced

theorem entryKeys_map_unplaced (entries : List MetaItem) :
    entryKeys (entries.map MetaItem.unplaced) = entryKeys entries := by
  unfold entryKeys
  rw [List.filterMap_map]
  exact congrArg (fun f => entries.filterMap f)
    (funext fun entry => Code.PathExpr.ident?_unplaced entry.path)

/-- Without places an expression says the same, without places. -/
theorem saidBy_unplaced {value : Expr} {said : KeyedValue} :
    SaidBy value.unplaced said ↔ ∃ setting, SaidBy value setting ∧ said = setting.unplaced := by
  have htype (p : Code.PathExpr) :
      p.unplaced.toType value.unplaced.tokens = (p.toType value.tokens).unplaced :=
    p.toType_unplaced value.tokens
  have hspan := value.span_unplaced
  constructor
  · intro h
    cases h with
    | baseUrl h => exact ⟨_, .baseUrl (Code.Expr.form_unplaced_eq_string.mp h), rfl⟩
    | suffix h hne hgap => exact ⟨_, .suffix (Code.Expr.form_unplaced_eq_string.mp h) hne hgap, rfl⟩
    | client h =>
      obtain ⟨p, hp, rfl⟩ := Code.Expr.form_unplaced_eq_path.mp h
      exact ⟨_, .client hp, congrArg KeyedValue.client (htype p)⟩
    | converter h =>
      obtain ⟨p, hp, rfl⟩ := Code.Expr.form_unplaced_eq_path.mp h
      exact ⟨_, .converter hp, congrArg KeyedValue.converter (htype p)⟩
    | @componentName model _ h hname =>
      obtain ⟨p, hp, rfl⟩ := Code.Expr.form_unplaced_eq_path.mp h
      rw [Code.PathExpr.ident?_unplaced] at hname
      exact ⟨_, .componentName hp hname, congrArg (KeyedValue.component model) hspan⟩
    | @componentText model h =>
      exact ⟨_, .componentText (Code.Expr.form_unplaced_eq_string.mp h),
        congrArg (KeyedValue.component model) hspan⟩
  · rintro ⟨setting, h, rfl⟩
    cases h with
    | baseUrl h => exact .baseUrl (Code.Expr.form_unplaced_eq_string.mpr h)
    | suffix h hne hgap => exact .suffix (Code.Expr.form_unplaced_eq_string.mpr h) hne hgap
    | @client p h =>
      rw [KeyedValue.unplaced, ← htype p]
      exact .client (Code.Expr.form_unplaced_eq_path.mpr ⟨p, h, rfl⟩)
    | @converter p h =>
      rw [KeyedValue.unplaced, ← htype p]
      exact .converter (Code.Expr.form_unplaced_eq_path.mpr ⟨p, h, rfl⟩)
    | @componentName model p h hname =>
      rw [KeyedValue.unplaced, ← hspan]
      rw [← Code.PathExpr.ident?_unplaced] at hname
      exact .componentName (Code.Expr.form_unplaced_eq_path.mpr ⟨p, h, rfl⟩) hname
    | componentText h =>
      rw [KeyedValue.unplaced, ← hspan]
      exact .componentText (Code.Expr.form_unplaced_eq_string.mpr h)

theorem says_unplaced {entry : MetaItem} {said : KeyedValue} :
    Says entry.unplaced said ↔ ∃ setting, Says entry setting ∧ said = setting.unplaced := by
  have hname : entry.unplaced.path.ident? = entry.path.ident? := entry.path.ident?_unplaced
  constructor
  · rintro ⟨hkey, value, hform, hsaid⟩
    obtain ⟨written, hwritten, rfl⟩ := Code.MetaItem.form_unplaced_eq_nameValue.mp hform
    obtain ⟨setting, hsetting, rfl⟩ := saidBy_unplaced.mp hsaid
    rw [hname, KeyedValue.key_unplaced] at hkey
    exact ⟨setting, ⟨hkey, written, hwritten, hsetting⟩, rfl⟩
  · rintro ⟨setting, ⟨hkey, value, hform, hsaid⟩, rfl⟩
    refine ⟨?_, value.unplaced, Code.MetaItem.form_unplaced_eq_nameValue.mpr ⟨value, hform, rfl⟩,
      saidBy_unplaced.mpr ⟨setting, hsaid, rfl⟩⟩
    rw [hname, hkey, KeyedValue.key_unplaced]

/-- What entries say is in their order. -/
theorem exists_forall₂_of_perm {entries entries' : List MetaItem} {settings : List KeyedValue}
    (h : List.Forall₂ Says entries settings)
    (hperm : (entries'.map MetaItem.unplaced).Perm (entries.map MetaItem.unplaced)) :
    ∃ settings', List.Forall₂ Says entries' settings' ∧
      (settings'.map KeyedValue.unplaced).Perm (settings.map KeyedValue.unplaced) := by
  have hbare : List.Forall₂ Says (entries.map MetaItem.unplaced)
      (settings.map KeyedValue.unplaced) := by
    rw [List.forall₂_map_left_iff, List.forall₂_map_right_iff]
    exact h.imp fun entry setting hsays => says_unplaced.mpr ⟨setting, hsays, rfl⟩
  obtain ⟨said, hsaid, hmoved⟩ := List.perm_comp_forall₂ hperm hbare
  rw [List.forall₂_map_left_iff, Outcome.forall₂_iff_exists_common (S := Says)
    (T := fun said setting => said = setting.unplaced) fun entry _ said => says_unplaced] at hsaid
  obtain ⟨settings', hall, hsame⟩ := hsaid
  rw [← List.forall₂_map_right_iff, List.forall₂_eq_eq_eq] at hsame
  exact ⟨settings', hall, hsame ▸ hmoved⟩

section

variable {α : Type} {field : Settings → Option α} {said? : KeyedValue → Option α} {key : String}
  {erase : α → α} {settings settings' : List KeyedValue}

theorem HoldsKey.lastOf_map_unplaced (h : HoldsKey field said? key erase) :
    lastOf said? (settings.map KeyedValue.unplaced) = (lastOf said? settings).map erase := by
  have hread : said? ∘ KeyedValue.unplaced = fun setting => (said? setting).map erase :=
    funext h.unplaced
  rw [lastOf, List.filterMap_map, hread, ← List.map_filterMap, List.getLast?_map, lastOf]

/-- Of different keys, the last value for a key is any value for it. -/
theorem HoldsKey.lastOf_eq_some (h : HoldsKey field said? key erase)
    (hdiffer : (settings.map KeyedValue.key).Nodup) {a : α} :
    lastOf said? settings = some a ↔ ∃ setting ∈ settings, said? setting = some a := by
  constructor
  · exact fun hlast => List.mem_filterMap.mp (List.mem_of_getLast? hlast)
  · rintro ⟨setting, hmem, ha⟩
    have hne : settings.filterMap said? ≠ [] :=
      List.ne_nil_of_mem (List.mem_filterMap.mpr ⟨setting, hmem, ha⟩)
    obtain ⟨b, hb⟩ := Option.isSome_iff_exists.mp (List.getLast?_isSome.mpr hne)
    obtain ⟨other, hother, hread⟩ := List.mem_filterMap.mp (List.mem_of_getLast? hb)
    -- what is said last is said by the entry with this key, and there is one
    obtain rfl : setting = other := List.inj_on_of_nodup_map hdiffer hmem hother
      ((h.key_eq _ _ ha).trans (h.key_eq _ _ hread).symm)
    rw [lastOf, hb, ← hread, ha]

/-- The values for different keys are the same in every order. -/
theorem HoldsKey.lastOf_perm (h : HoldsKey field said? key erase)
    (hdiffer : (settings.map KeyedValue.key).Nodup)
    (hperm : (settings'.map KeyedValue.unplaced).Perm (settings.map KeyedValue.unplaced)) :
    (lastOf said? settings').map erase = (lastOf said? settings).map erase := by
  have hdiffer' : ((settings.map KeyedValue.unplaced).map KeyedValue.key).Nodup := by
    rwa [map_key_unplaced]
  have hmoved : ((settings'.map KeyedValue.unplaced).map KeyedValue.key).Nodup :=
    (hperm.map KeyedValue.key).nodup_iff.mpr hdiffer'
  rw [← h.lastOf_map_unplaced, ← h.lastOf_map_unplaced]
  refine Option.ext fun a => ?_
  rw [h.lastOf_eq_some hdiffer', h.lastOf_eq_some hmoved]
  simp only [hperm.mem_iff]

theorem HoldsKey.getD_perm (h : HoldsKey field said? key erase)
    (hdiffer : (settings.map KeyedValue.key).Nodup)
    (hperm : (settings'.map KeyedValue.unplaced).Perm (settings.map KeyedValue.unplaced)) (a : α) :
    erase ((lastOf said? settings').getD a) = erase ((lastOf said? settings).getD a) := by
  rw [← Option.getD_map erase a, h.lastOf_perm hdiffer hperm, Option.getD_map]

end

/-- Settings with different keys say the same together in every order. -/
theorem ClientConfig.Collects.of_perm {config : ClientConfig} {settings settings' : List KeyedValue}
    (h : config.Collects settings) (hdiffer : (settings.map KeyedValue.key).Nodup)
    (hperm : (settings'.map KeyedValue.unplaced).Perm (settings.map KeyedValue.unplaced)) :
    ∃ config' : ClientConfig, config'.Collects settings' ∧ config'.unplaced = config.unplaced := by
  have hkeys : "converter" ∈ settings'.map KeyedValue.key := by
    rw [← map_key_unplaced, (hperm.map KeyedValue.key).mem_iff, map_key_unplaced]
    exact exists_collects.mp ⟨config, h⟩
  obtain ⟨config', h'⟩ := exists_collects.mpr hkeys
  have hbase : config'.baseUrl = config.baseUrl := by
    rw [h'.baseUrl, h.baseUrl]
    exact holds_baseUrl.getD_perm hdiffer hperm ""
  have hsuffix : config'.suffix = config.suffix := by
    rw [h'.suffix, h.suffix]
    exact holds_suffix.getD_perm hdiffer hperm "Impl"
  have hclient : config'.client.unplaced = config.client.unplaced := by
    rw [h'.client, h.client]
    exact holds_client.getD_perm hdiffer hperm defaultClient
  have hconverter : config'.converter.unplaced = config.converter.unplaced := by
    have hlast := holds_converter.lastOf_perm hdiffer hperm
    rw [h'.converter, h.converter] at hlast
    exact Option.some.inj hlast
  have hcomponent : config'.component = config.component := by
    have hlast := holds_component.getD_perm hdiffer hperm (.standalone, .nowhere)
    rw [← h'.component, ← h.component] at hlast
    exact congrArg Prod.fst hlast
  refine ⟨config', h', ?_⟩
  rw [unplaced, unplaced, hbase, hsuffix, hclient, hconverter, hcomponent]

theorem ClientConfig.ofEntries_perm {entries entries' : List MetaItem} {config : ClientConfig}
    (h : ClientConfig.ofEntries entries = .ok config) (hdiffer : (entryKeys entries).Nodup)
    (hperm : (entries'.map MetaItem.unplaced).Perm (entries.map MetaItem.unplaced)) :
    ∃ config', ClientConfig.ofEntries entries' = .ok config' ∧
      config'.unplaced = config.unplaced := by
  obtain ⟨settings, hall, hcollects⟩ := ofEntries_eq_ok.mp h
  rw [entryKeys_eq hall] at hdiffer
  obtain ⟨settings', hall', hmoved⟩ := exists_forall₂_of_perm hall hperm
  obtain ⟨config', hcollects', hsame⟩ := hcollects.of_perm hdiffer hmoved
  exact ⟨config', ofEntries_eq_ok.mpr ⟨settings', hall', hcollects'⟩, hsame⟩

theorem ListsEntries.parse_perm {trees trees' : Tokens} {entries entries' : List MetaItem}
    (h : ListsEntries trees entries) (h' : ListsEntries trees' entries')
    (hdiffer : (entryKeys entries).Nodup)
    (hperm : (entries'.map MetaItem.unplaced).Perm (entries.map MetaItem.unplaced)) :
    (ClientConfig.parse trees').toOption.map ClientConfig.unplaced =
      (ClientConfig.parse trees).toOption.map ClientConfig.unplaced := by
  have hdiffer' : (entryKeys entries').Nodup := by
    have hkeys : (entryKeys entries').Perm (entryKeys entries) := by
      rw [← entryKeys_map_unplaced, ← entryKeys_map_unplaced entries]
      exact hperm.filterMap _
    exact hkeys.nodup_iff.mpr hdiffer
  cases hparse : ClientConfig.parse trees with
  | ok config =>
    obtain ⟨config', hentries, hsame⟩ :=
      ClientConfig.ofEntries_perm (h.parse_eq_ok.mp hparse) hdiffer hperm
    rw [h'.parse_eq_ok.mpr hentries]
    exact congrArg some hsame
  | error fault =>
    cases hparse' : ClientConfig.parse trees' with
    | error fault' => rfl
    | ok config' =>
      obtain ⟨config, hentries, -⟩ :=
        ClientConfig.ofEntries_perm (h'.parse_eq_ok.mp hparse') hdiffer' hperm.symm
      rw [h.parse_eq_ok.mpr hentries] at hparse
      cases hparse

/-! ### What entries say by their keys -/

/-- Arguments that are accepted are entries with commas between them. Such arguments are accepted
where every entry says something and one says a converter, and then every field of the
configuration is the last of what is said for its key, or what stands for it. Where no two entries
have the same key, their order changes nothing but places. -/
theorem client_configuration_keyed :
    (∀ trees config, ClientConfig.parse trees = .ok config →
      ∃ entries, ListsEntries trees entries) ∧
    (∀ trees entries, ListsEntries trees entries →
      Parser.Separated (fun front entry => front ≠ [] ∧ Code.SameEnds entry.tokens front)
        trees entries ∧
      ((∃ config, ClientConfig.parse trees = .ok config) ↔
        (∀ entry ∈ entries, ∃ setting, Says entry setting) ∧ "converter" ∈ entryKeys entries) ∧
      (∀ config, ClientConfig.parse trees = .ok config ↔
        ∃ settings, List.Forall₂ Says entries settings ∧ config.Collects settings) ∧
      ∀ trees' entries', ListsEntries trees' entries' → (entryKeys entries).Nodup →
        (entries'.map MetaItem.unplaced).Perm (entries.map MetaItem.unplaced) →
        (ClientConfig.parse trees').toOption.map ClientConfig.unplaced =
          (ClientConfig.parse trees).toOption.map ClientConfig.unplaced) ∧
    typeKey defaultClient = [":", ":", "kite_common", ":", ":", "ReqwestClient"] := by
  refine ⟨fun trees config hparse => ?_, fun trees entries h => ⟨h.separated, ?_, fun config => ?_,
    fun trees' entries' h' hdiffer hperm => h.parse_perm h' hdiffer hperm⟩, rfl⟩
  · obtain ⟨entries, h, -⟩ := ClientConfig.parse_eq_ok.mp hparse
    exact ⟨entries, h⟩
  · simp only [h.parse_eq_ok]
    exact ClientConfig.exists_ofEntries
  · rw [h.parse_eq_ok]
    exact ClientConfig.ofEntries_eq_ok

/-- The entry `converter = J`. -/
def converterEntry (place : Span) : MetaItem :=
  ⟨Parser.namePath "converter", .nameValue ⟨.path (Parser.namePath "J"), [.ident "J" place]⟩,
    [.ident "converter" place, .punct '=' false place, .ident "J" place]⟩

/-- The entry `base_url = "/"`. -/
def baseEntry (place : Span) : MetaItem :=
  ⟨Parser.namePath "base_url", .nameValue ⟨.string "/", [.literal "\"/\"" place]⟩,
    [.ident "base_url" place, .punct '=' false place, .literal "\"/\"" place]⟩

/-- The arguments `converter = J, base_url = "/"`. -/
def converterFirst : Tokens :=
  (converterEntry .nowhere).tokens ++ .punct ',' false .nowhere :: (baseEntry .nowhere).tokens

/-- A place on another line. -/
def nextLine : Span :=
  ⟨⟨2, 0⟩, ⟨2, 4⟩⟩

/-- The arguments `base_url = "/", converter = J,` on another line. -/
def baseFirst : Tokens :=
  (baseEntry nextLine).tokens ++ .punct ',' false nextLine ::
    ((converterEntry nextLine).tokens ++ [.punct ',' false nextLine])

/-- A configuration with an address and a converter. -/
def baseConfig : ClientConfig :=
  ⟨"/", "Impl", defaultClient, (Parser.namePath "J").toType [.ident "J" .nowhere], .standalone,
    .nowhere⟩

theorem client_configuration_keyed_base :
    ListsEntries converterFirst [converterEntry .nowhere, baseEntry .nowhere] ∧
      ListsEntries baseFirst [baseEntry nextLine, converterEntry nextLine] ∧
      ClientConfig.parse converterFirst = .ok baseConfig ∧
      (ClientConfig.parse baseFirst).toOption.map ClientConfig.unplaced =
        some baseConfig.unplaced := by
  have hconverter (place : Span) :
      PlainEntry (converterEntry place).tokens (converterEntry place) :=
    .intro place place false (by decide) (.name place (by decide))
  have hbase (place : Span) : PlainEntry (baseEntry place).tokens (baseEntry place) := by
    have hvalue : Code.stringValue? "\"/\"".toList = some (['/'], []) := by decide
    exact .intro place place false (by decide) (.value (.string place hvalue))
  have hlists : ListsEntries converterFirst [converterEntry .nowhere, baseEntry .nowhere] :=
    .of_plain (.cons false .nowhere (hconverter .nowhere) (.last (hbase .nowhere)))
  have hlists' : ListsEntries baseFirst [baseEntry nextLine, converterEntry nextLine] :=
    .of_plain (.cons false nextLine (hbase nextLine)
      (.cons false nextLine (hconverter nextLine) .nil))
  have hsaid : List.Forall₂ Says [converterEntry .nowhere, baseEntry .nowhere]
      [.converter baseConfig.converter, .baseUrl "/"] :=
    .cons ⟨rfl, _, rfl, .converter rfl⟩ (.cons ⟨rfl, _, rfl, .baseUrl rfl⟩ .nil)
  obtain ⟨-, hkeyed, -⟩ := client_configuration_keyed
  obtain ⟨-, -, hconfig, horder⟩ := hkeyed _ _ hlists
  have hparse : ClientConfig.parse converterFirst = .ok baseConfig :=
    (hconfig baseConfig).mpr ⟨_, hsaid, rfl, rfl, rfl, rfl, rfl⟩
  refine ⟨hlists, hlists', hparse, ?_⟩
  rw [horder _ _ hlists' (by decide) (.swap _ _ []), hparse]
  rfl

end RestClient
