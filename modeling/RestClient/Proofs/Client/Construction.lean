import RestClient.Client.Construction
import RestClient.Proofs.Client.FieldOrder
import RestClient.Proofs.Client.Reporting

/-!
# Constructed clients

A client is built exactly if the factory makes a converter for every field of the plan, and
otherwise fails on the first field without one. The constructor that is generated does so statement
by statement: all names in it differ, so each of them stands for what it was given to, and the
fields of the client are filled with what was made for them.

## Main definitions

- `Setting.baseUrl?`, `Setting.transport?`, `Setting.converterFactory?` — what a setting is for

## Main results

- `ClientType.construct_eq_build` — the constructor is what builds a client
- `build_all_or_nothing` — when a client is built, and what it holds
-/

namespace RestClient

open Code (PlainCode TypeExpr codeOf)
open Http (Failure Transport)

variable {σ : Type}

/-! ### Distinct keys -/

theorem key_ne_of_nodup {α β : Type} {key : α → β} {before after : List α} {a b : α}
    (h : ((before ++ a :: after).map key).Nodup) (hb : b ∈ before) : key b ≠ key a := by
  rw [List.map_append, List.nodup_append'] at h
  exact fun he => h.2.2 (List.mem_map_of_mem hb) (he ▸ List.mem_map_of_mem List.mem_cons_self)

theorem find?_eq_some_of_nodup {α β : Type} [BEq β] [LawfulBEq β] {key : α → β} {l : List α} {a : α}
    (hnodup : (l.map key).Nodup) (ha : a ∈ l) : l.find? (fun b => key b == key a) = some a := by
  obtain ⟨before, after, rfl⟩ := List.append_of_mem ha
  rw [List.find?_eq_some_iff_append]
  refine ⟨beq_self_eq_true _, before, after, rfl, fun b hb => ?_⟩
  simpa using key_ne_of_nodup hnodup hb

theorem lookup_eq_some_of_nodup {β : Type} {scope : List (String × β)} {name : String} {value : β}
    (hnodup : (scope.map Prod.fst).Nodup) (hmem : (name, value) ∈ scope) :
    scope.lookup name = some value := by
  obtain ⟨before, after, rfl⟩ := List.append_of_mem hmem
  rw [List.lookup_eq_some_iff]
  refine ⟨before, after, rfl, fun entry hentry => ?_⟩
  simpa using (key_ne_of_nodup hnodup hentry).symm

/-! ### Converters of a factory -/

namespace ConverterFactory

/-- A factory makes no converter for a field. -/
def lacks (factory : ConverterFactory) (f : ConverterField) : Bool :=
  (factory.make? f.use.kind f.use.type).isNone

variable {typeName : TypeExpr → String} {factory : ConverterFactory} {f : ConverterField}

theorem hold_eq_ok {held : HeldConverter} :
    factory.hold typeName f = .ok held ↔
      ∃ convert, factory.make? f.use.kind f.use.type = some convert ∧ ⟨f, convert⟩ = held := by
  unfold hold
  cases factory.make? f.use.kind f.use.type <;> simp

theorem hold_eq_error {failure : Failure} :
    factory.hold typeName f = .error failure ↔
      factory.lacks f = true ∧
        failure = .missingConverter f.use.kind (typeName f.use.type) := by
  unfold hold lacks
  cases factory.make? f.use.kind f.use.type <;> simp [eq_comm]

theorem exists_hold_eq_ok :
    (∃ held, factory.hold typeName f = .ok held) ↔
      (factory.make? f.use.kind f.use.type).isSome = true := by
  simp [hold_eq_ok, Option.isSome_iff_exists]

/-- The converters for some fields are not made because of the first field that the factory has
none for. -/
theorem mapM_hold_eq_error {fields : List ConverterField} {failure : Failure} :
    fields.mapM (factory.hold typeName) = .error failure ↔
      ∃ f, fields.find? factory.lacks = some f ∧
        failure = .missingConverter f.use.kind (typeName f.use.type) := by
  induction fields with
  | nil => simp [pure, Except.pure]
  | cons f fields ih =>
    rw [List.mapM_cons]
    cases hf : factory.hold typeName f with
    | error other =>
      obtain ⟨hlacks, rfl⟩ := hold_eq_error.mp hf
      rw [List.find?_cons_of_pos hlacks]
      simp [bind, Except.bind, eq_comm]
    | ok held =>
      obtain ⟨convert, hmake, rfl⟩ := hold_eq_ok.mp hf
      have hmakes : ¬ factory.lacks f = true := by simp [lacks, hmake]
      rw [List.find?_cons_of_neg hmakes, ← ih]
      cases fields.mapM (factory.hold typeName) <;> simp [bind, Except.bind, pure, Except.pure]

/-- The converters that are held are for the fields, in their order. -/
theorem map_field_of_mapM {fields : List ConverterField} {held : List HeldConverter}
    (h : fields.mapM (factory.hold typeName) = .ok held) :
    held.map HeldConverter.field = fields := by
  have hheld := Outcome.mapM_eq_ok.mp h
  clear h
  induction hheld with
  | nil => rfl
  | cons hf _ ih =>
    obtain ⟨convert, _, rfl⟩ := hold_eq_ok.mp hf
    rw [List.map_cons, ih]

end ConverterFactory

/-! ### Names of kinds -/

theorem ConverterKind.named?_factoryMethod (kind : ConverterKind) :
    ConverterKind.named? ConverterKind.factoryMethod kind.factoryMethod = some kind := by
  cases kind <;> decide

theorem ConverterKind.named?_variant (kind : ConverterKind) :
    ConverterKind.named? ConverterKind.variant kind.variant = some kind := by
  cases kind <;> decide

/-! ### Statements -/

section Statements

variable {p : Premises σ} {scope : Scope σ} {factory : ConverterFactory}

/-- The statement for a converter names what the factory makes for the field. -/
theorem Statement.run_initializer
    (hscope : scope.lookup "converter_factory" = some (.factory factory)) (f : ConverterField) :
    f.initializer.run p scope =
      ((factory.hold p.typeName f).map fun held => held.entry :: scope).mapError .failed := by
  simp only [ConverterField.initializer, Statement.run, hscope, ConverterKind.named?_factoryMethod,
    ConverterKind.named?_variant, if_true, ConverterFactory.hold]
  cases factory.make? f.use.kind f.use.type <;> rfl

/-- The statements for converters name what the factory makes for the fields, or end where it makes
nothing. None of them takes the name of the factory away. -/
theorem Statement.foldlM_run_initializer {fields : List ConverterField}
    (hfields : ∀ f ∈ fields, f.name ≠ "converter_factory")
    (hscope : scope.lookup "converter_factory" = some (.factory factory)) :
    (fields.map ConverterField.initializer).foldlM (Statement.run p) scope =
      ((fields.mapM (factory.hold p.typeName)).map fun held =>
        (held.map HeldConverter.entry).reverse ++ scope).mapError .failed := by
  induction fields generalizing scope with
  | nil => rfl
  | cons f fields ih =>
    obtain ⟨hf, hfields⟩ := List.forall_mem_cons.mp hfields
    rw [List.map_cons, List.foldlM_cons, run_initializer hscope, List.mapM_cons]
    cases hheld : factory.hold p.typeName f with
    | error failure => rfl
    | ok held =>
      obtain ⟨convert, _, rfl⟩ := ConverterFactory.hold_eq_ok.mp hheld
      -- the new name hides only itself, so the next statement still finds the factory
      have hnext : List.lookup "converter_factory"
          (HeldConverter.entry ⟨f, convert⟩ :: scope : Scope σ) = some (.factory factory) := by
        rw [HeldConverter.entry, List.lookup_cons, beq_false_of_ne (Ne.symm hf)]
        exact hscope
      refine (ih hfields hnext).trans ?_
      cases fields.mapM (factory.hold p.typeName) with
      | error failure => rfl
      | ok rest =>
        simp [bind, Except.bind, pure, Except.pure, Except.map, Except.mapError]

/-- The names of the settings, with what they are set to. -/
def settingEntries (p : Premises σ) (b : ClientBuilder σ) : Scope σ :=
  [("converter_factory", .factory (b.converterFactory.getD p.factory)),
    ("http_client", .transport (b.transport.getD p.transport)),
    ("base_url", .text (b.baseUrl.getD p.type.baseUrl)), ("builder", .builder b)]

/-- The statements of a constructor name the settings and the converters. -/
theorem ClientType.foldlM_run_constructor {b : ClientBuilder σ}
    (hfields : ∀ f ∈ p.type.fields, f.name ≠ "converter_factory") :
    p.type.constructor.foldlM (Statement.run p) [("builder", .builder b)] =
      ((p.type.fields.mapM ((b.converterFactory.getD p.factory).hold p.typeName)).map fun held =>
        (held.map HeldConverter.entry).reverse ++ settingEntries p b).mapError .failed := by
  have hscope : (settingEntries p b).lookup "converter_factory" =
      some (.factory (b.converterFactory.getD p.factory)) := rfl
  rw [ClientType.constructor, List.foldlM_append,
    ← Statement.foldlM_run_initializer (p := p) hfields hscope]
  simp [Statement.run, ClientBuilder.setting?, settingEntries, List.lookup_cons, bind, Except.bind,
    pure, Except.pure]

end Statements

/-! ### Fields of a client -/

/-- A client is filled with entries in scope that have the names and types of its fields. -/
theorem ClientType.fill_eq_ok {c : ClientType} {scope entries : Scope σ}
    (hfilled : c.filled.Nodup ∧ c.filled.Perm (c.members.map Prod.fst))
    (hscope : (scope.map Prod.fst).Nodup) (hentries : entries ⊆ scope)
    (hmembers : entries.map (fun entry => (entry.1, entry.2.typeCode c)) = c.members) :
    c.fill c.filled scope = .ok entries := by
  rw [ClientType.fill, if_pos hfilled, Outcome.mapM_eq_ok, ← hmembers, List.forall₂_map_left_iff,
    List.forall₂_same]
  intro entry hentry
  rw [ClientType.fillMember, lookup_eq_some_of_nodup hscope (hentries hentry)]
  exact if_pos rfl

theorem HeldConverter.map_fst_entry (held : List HeldConverter) :
    (held.map (HeldConverter.entry (σ := σ))).map Prod.fst =
      (held.map HeldConverter.field).map ConverterField.name := by
  simp [HeldConverter.entry]

/-- The names in a constructor that has come to its end all differ. -/
theorem nodup_scope {p : Premises σ} {b : ClientBuilder σ} {held : List HeldConverter}
    (hnames : (reservedFields ++ (held.map HeldConverter.field).map ConverterField.name).Nodup) :
    (((held.map HeldConverter.entry).reverse ++ settingEntries p b).map Prod.fst).Nodup := by
  have hsettings : ((settingEntries p b).map Prod.fst).Perm reservedFields := by
    show List.Perm ["converter_factory", "http_client", "base_url", "builder"] reservedFields
    decide
  have hperm : (((held.map HeldConverter.entry).reverse ++ settingEntries p b).map Prod.fst).Perm
      (reservedFields ++ (held.map HeldConverter.field).map ConverterField.name) := by
    rw [List.map_append, List.map_reverse, HeldConverter.map_fst_entry]
    exact ((List.reverse_perm _).append hsettings).trans List.perm_append_comm
  exact hperm.nodup_iff.mpr hnames

theorem ClientType.map_fst_members (c : ClientType) : c.members.map Prod.fst = c.filled := by
  simp [ClientType.members, ClientType.commonFields, ClientType.filled]

/-- A constructor in which all names differ gives a client with the settings and with the converters
that the factory makes, or fails with the factory. -/
theorem ClientType.construct_eq {p : Premises σ} {b : ClientBuilder σ}
    (hnames : (reservedFields ++ p.type.fields.map ConverterField.name).Nodup) :
    ClientType.construct p b =
      ((p.type.fields.mapM ((b.converterFactory.getD p.factory).hold p.typeName)).map fun held =>
        Client.entries ⟨b.baseUrl.getD p.type.baseUrl, b.transport.getD p.transport,
          b.converterFactory.getD p.factory, held⟩).mapError .failed := by
  have hfree : ∀ f ∈ p.type.fields, f.name ≠ "converter_factory" := by
    intro f hf he
    have hreserved : "converter_factory" ∈ reservedFields := by decide
    exact (List.nodup_append'.mp hnames).2.2 hreserved (he ▸ List.mem_map_of_mem hf)
  have hfilled : p.type.filled.Nodup := by
    have hcommon :
        List.Sublist ["base_url", "http_client", "converter_factory"] reservedFields := by
      decide
    exact hnames.sublist (hcommon.append_right _)
  rw [construct, foldlM_run_constructor hfree]
  cases hheld : p.type.fields.mapM ((b.converterFactory.getD p.factory).hold p.typeName) with
  | error failure => rfl
  | ok held =>
    have hfields := ConverterFactory.map_field_of_mapM hheld
    -- the scope has one name more than the client, that of the builder
    refine fill_eq_ok ⟨hfilled, by rw [map_fst_members]⟩ (nodup_scope (hfields ▸ hnames)) ?_ ?_
    · intro entry hentry
      simp only [Client.entries, settingEntries, List.mem_append, List.mem_cons, List.mem_reverse]
        at hentry ⊢
      tauto
    · rw [ClientType.members, ← hfields]
      simp [Client.entries, HeldConverter.entry, Bound.typeCode, ConverterField.typeCode,
        ClientType.commonFields]

/-- The constructor of a client is what builds it. -/
theorem ClientType.construct_eq_build {plan : ClientPlan}
    (hnames : (reservedFields ++ plan.converters.fields.map ConverterField.name).Nodup)
    (transport : Transport σ) (factory : ConverterFactory) (b : ClientBuilder σ)
    (typeName : TypeExpr → String) :
    ClientType.construct ⟨plan.clientType, transport, factory, typeName⟩ b =
      ((b.build plan transport factory typeName).map Client.entries).mapError .failed := by
  rw [construct_eq hnames, ClientBuilder.build]
  dsimp only
  have hfields : plan.clientType.fields = plan.converters.fields := rfl
  rw [hfields]
  cases plan.converters.fields.mapM ((b.converterFactory.getD factory).hold typeName) <;> rfl

/-! ### Settings -/

/-- The address that a setting is for. -/
def Setting.baseUrl? : Setting σ → Option String
  | baseUrl value => some value
  | _ => none

/-- The transport that a setting is for. -/
def Setting.transport? : Setting σ → Option (Transport σ)
  | transport value => some value
  | _ => none

/-- The factory that a setting is for. -/
def Setting.converterFactory? : Setting σ → Option ConverterFactory
  | converterFactory value => some value
  | _ => none

/-- A field of the builder has what the last setting for it was given, if there was one. -/
theorem ClientBuilder.foldl_set {α : Type} (field : ClientBuilder σ → Option α)
    (given : Setting σ → Option α)
    (hset : ∀ b s, field (b.set s) = (given s).or (field b)) (settings : List (Setting σ))
    (b : ClientBuilder σ) :
    field (settings.foldl ClientBuilder.set b) =
      (settings.filterMap given).getLast?.or (field b) := by
  induction settings generalizing b with
  | nil => rfl
  | cons s settings ih =>
    rw [List.foldl_cons, ih, hset]
    cases hs : given s with
    | none => rw [List.filterMap_cons_none hs, Option.none_or]
    | some value =>
      rw [List.filterMap_cons_some hs, List.getLast?_cons]
      cases (settings.filterMap given).getLast? <;> rfl

/-- A builder after some settings has the last values that were given. -/
theorem ClientBuilder.foldl_set_new (settings : List (Setting σ)) :
    settings.foldl ClientBuilder.set .new =
      ⟨(settings.filterMap Setting.baseUrl?).getLast?,
        (settings.filterMap Setting.transport?).getLast?,
        (settings.filterMap Setting.converterFactory?).getLast?⟩ := by
  have hbaseUrl := foldl_set ClientBuilder.baseUrl Setting.baseUrl?
    (fun b s => by cases s <;> rfl) settings .new
  have htransport := foldl_set ClientBuilder.transport Setting.transport?
    (fun b s => by cases s <;> rfl) settings .new
  have hfactory := foldl_set ClientBuilder.converterFactory Setting.converterFactory?
    (fun b s => by cases s <;> rfl) settings .new
  rw [ClientBuilder.new, Option.or_none] at hbaseUrl htransport hfactory
  rw [← hbaseUrl, ← htransport, ← hfactory]
  rfl

/-! ### Clients -/

section Clients

variable {plan : ClientPlan} {transport : Transport σ} {default : ConverterFactory}
  {b : ClientBuilder σ} {typeName : TypeExpr → String} {client : Client σ} {failure : Failure}

theorem ClientBuilder.build_eq_ok :
    b.build plan transport default typeName = .ok client ↔
      plan.converters.fields.mapM ((b.converterFactory.getD default).hold typeName) =
          .ok client.held ∧
        client.baseUrl = b.baseUrl.getD plan.interface.baseUrl ∧
        client.transport = b.transport.getD transport ∧
        client.converterFactory = b.converterFactory.getD default := by
  obtain ⟨baseUrl, transport, factory, held⟩ := client
  rw [ClientBuilder.build, Outcome.map_eq_ok]
  simp only [Client.mk.injEq]
  constructor
  · rintro ⟨_, hheld, rfl, rfl, rfl, rfl⟩
    exact ⟨hheld, rfl, rfl, rfl⟩
  · rintro ⟨hheld, rfl, rfl, rfl⟩
    exact ⟨held, hheld, rfl, rfl, rfl, rfl⟩

theorem ClientBuilder.exists_build_eq_ok :
    (∃ client, b.build plan transport default typeName = .ok client) ↔
      ∃ held, plan.converters.fields.mapM ((b.converterFactory.getD default).hold typeName) =
        .ok held := by
  constructor
  · rintro ⟨client, h⟩
    exact ⟨client.held, (build_eq_ok.mp h).1⟩
  · rintro ⟨held, h⟩
    exact ⟨⟨_, _, _, held⟩, build_eq_ok.mpr ⟨h, rfl, rfl, rfl⟩⟩

theorem ClientBuilder.build_eq_error :
    b.build plan transport default typeName = .error failure ↔
      plan.converters.fields.mapM ((b.converterFactory.getD default).hold typeName) =
        .error failure :=
  Outcome.map_eq_error

/-- The converter in a field of a client is the one that was made for the field. -/
theorem converter?_eq_make? {factory : ConverterFactory} {fields : List ConverterField}
    (hheld : fields.mapM (factory.hold typeName) = .ok client.held)
    (hnames : (fields.map ConverterField.name).Nodup) {f : ConverterField} (hf : f ∈ fields) :
    client.converter? f.use.kind f.name = factory.make? f.use.kind f.use.type := by
  have hfields := ConverterFactory.map_field_of_mapM hheld
  obtain ⟨c, hc, rfl⟩ := List.mem_map.mp (hfields.symm ▸ hf)
  obtain ⟨g, _, hg⟩ := Outcome.exists_of_forall₂ (Outcome.mapM_eq_ok.mp hheld) hc
  obtain ⟨convert, hmake, rfl⟩ := ConverterFactory.hold_eq_ok.mp hg
  have hkeys : (client.held.map fun c => c.field.name).Nodup := by
    rwa [← hfields, List.map_map] at hnames
  rw [hmake, Client.converter?, find?_eq_some_of_nodup hkeys hc]
  exact dif_pos rfl

end Clients

/-- A client of an interface is built exactly if the factory that is used makes a converter for the
kind and the type of each field; otherwise the first field without one is what it fails on. Its
settings are the last ones that were given, or the declared address and the default values, and each
field has the converter that was made for it. The constructor does the same, with the fields of the
client as they are declared. All this holds whatever names types have in errors. -/
theorem build_all_or_nothing {d : InterfaceDescriptor} {plan : ClientPlan}
    (h : ClientPlan.ofInterface d = .ok plan) (transport : Transport σ) (default : ConverterFactory)
    (settings : List (Setting σ)) (typeName : TypeExpr → String) :
    let builder := settings.foldl ClientBuilder.set .new
    let factory := (settings.filterMap Setting.converterFactory?).getLast?.getD default
    ((∃ client, builder.build plan transport default typeName = .ok client) ↔
      ∀ f ∈ plan.converters.fields, (factory.make? f.use.kind f.use.type).isSome = true) ∧
    (∀ failure, builder.build plan transport default typeName = .error failure ↔
      ∃ f, plan.converters.fields.find? factory.lacks = some f ∧
        failure = .missingConverter f.use.kind (typeName f.use.type)) ∧
    (∀ client, builder.build plan transport default typeName = .ok client →
      client.baseUrl = (settings.filterMap Setting.baseUrl?).getLast?.getD d.baseUrl ∧
      client.transport = (settings.filterMap Setting.transport?).getLast?.getD transport ∧
      client.converterFactory = factory ∧
      client.held.map HeldConverter.field = plan.converters.fields ∧
      ∀ f ∈ plan.converters.fields,
        client.converter? f.use.kind f.name = factory.make? f.use.kind f.use.type) ∧
    ClientType.construct ⟨plan.clientType, transport, default, typeName⟩ builder =
      ((builder.build plan transport default typeName).map Client.entries).mapError .failed := by
  intro builder factory
  obtain ⟨rfl, hplan, _⟩ := ClientPlan.ofInterface_eq_ok h
  have hholds := ConverterPlan.holds_build hplan
  have hnames := hholds.distinct
  rw [hholds.taken] at hnames
  have hbuilder := ClientBuilder.foldl_set_new settings
  have hfactory : builder.converterFactory.getD default = factory := by
    rw [show builder = _ from hbuilder]
  refine ⟨?_, fun failure => ?_, fun client hclient => ?_,
    ClientType.construct_eq_build hnames transport default builder typeName⟩
  · simp only [ClientBuilder.exists_build_eq_ok, hfactory, Outcome.exists_mapM_eq_ok,
      ConverterFactory.exists_hold_eq_ok]
  · rw [ClientBuilder.build_eq_error, hfactory, ConverterFactory.mapM_hold_eq_error]
  · obtain ⟨hheld, hbaseUrl, htransport, hclientFactory⟩ := ClientBuilder.build_eq_ok.mp hclient
    rw [hfactory] at hheld hclientFactory
    rw [show builder = _ from hbuilder] at hbaseUrl htransport
    exact ⟨hbaseUrl, htransport, hclientFactory, ConverterFactory.map_field_of_mapM hheld,
      fun f hf => converter?_eq_make? hheld (List.nodup_append'.mp hnames).2.1 hf⟩

/-! ### A factory for texts only -/

/-- A transport that reaches nothing. -/
def unreachable : Transport Unit :=
  fun _ => Http.failing (.transport .network)

/-- A factory for everything, with converters that fail. -/
def reluctant : ConverterFactory :=
  ⟨fun kind _ => some (kind.failing (.conversion .json))⟩

theorem announcer_fields :
    ∃ plan text user, ClientPlan.ofInterface announcerInterface = .ok plan ∧
      plan.converters.fields = [text, user] ∧
      text.name = "u32_string_converter" ∧ text.use.kind = .string ∧
      user.use.kind = .responseBody ∧ user.use.type.fullName = "User" := by
  have hfields : (ClientPlan.ofInterface announcerInterface).map
      (fun plan => plan.converters.fields.map fun f =>
        (f.name, f.use.kind, f.use.type.fullName)) =
        .ok [("u32_string_converter", .string, "u32"),
          ("user_response_body_converter", .responseBody, "User")] := by
    decide +kernel
  obtain ⟨plan, hplan, hfields⟩ := Outcome.map_eq_ok.mp hfields
  obtain ⟨text, _, hfields, htext, hrest⟩ := List.map_eq_cons_iff.mp hfields
  obtain ⟨user, _, rfl, huser, hnil⟩ := List.map_eq_cons_iff.mp hrest
  obtain rfl := List.map_eq_nil_iff.mp hnil
  simp only [Prod.mk.injEq] at htext huser
  exact ⟨plan, text, user, hplan, hfields, htext.1, htext.2.1, huser.2⟩

theorem build_all_or_nothing_announcer :
    ∃ plan, ClientPlan.ofInterface announcerInterface = .ok plan ∧
      (([.converterFactory reluctant, .converterFactory (reluctant.restrict (· == .string))] :
        List (Setting Unit)).foldl ClientBuilder.set .new).build plan unreachable reluctant =
          .error (.missingConverter .responseBody "User") ∧
      ∃ client, (([.baseUrl "https://a", .baseUrl "https://b"] : List (Setting Unit)).foldl
          ClientBuilder.set .new).build plan unreachable reluctant = .ok client ∧
        client.baseUrl = "https://b" ∧
        (client.converter? .string "u32_string_converter").isSome = true := by
  obtain ⟨plan, text, user, hplan, hfields, hname, htext, huser, hfull⟩ := announcer_fields
  refine ⟨plan, hplan, ?_, ?_⟩
  · obtain ⟨_, hmissing, _⟩ := build_all_or_nothing hplan unreachable reluctant
      [.converterFactory reluctant, .converterFactory (reluctant.restrict (· == .string))]
      TypeExpr.fullName
    refine (hmissing _).mpr ⟨user, ?_, by rw [huser, hfull]⟩
    rw [hfields]
    simp [ConverterFactory.lacks, Setting.converterFactory?, ConverterFactory.restrict, reluctant,
      htext, huser]
  · obtain ⟨hbuilt, _, hclient, _⟩ := build_all_or_nothing hplan unreachable reluctant
      [.baseUrl "https://a", .baseUrl "https://b"] TypeExpr.fullName
    obtain ⟨client, hclient'⟩ := hbuilt.mpr fun f _ => rfl
    obtain ⟨hbaseUrl, _, _, _, hconverters⟩ := hclient client hclient'
    refine ⟨client, hclient', hbaseUrl, ?_⟩
    have hmember : text ∈ plan.converters.fields := by
      rw [hfields]
      exact List.mem_cons_self
    have hconverter := hconverters text hmember
    rw [hname, htext] at hconverter
    rw [hconverter]
    rfl

end RestClient
