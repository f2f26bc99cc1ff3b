import RestClient.Http.Transmission
import RestClient.Proofs.Outcome

/-!
# The content type that is sent

A header of a request may say the content type, and a payload has one of its own. What is sent says
the one of the header if there is one, else that of the payload, and says it once. A multipart
payload is the exception: beside a header it says its own as well, and then two are sent.

## Main definitions

- `contentTypes` — the content types in headers
- `Payload.contentType?` — the content type of a payload
- `Transmission.contentTypes` — the content types that are sent
- `SaysOnce` — the content type of the header is sent, else that of the payload, and no other

## Main results

- `contentTypes_sentHeaders` — which content types a request is given
- `contentTypes_of_transmit` — they are sent as they are
- `content_type_said_once_iff` — when the right one is sent once
-/

namespace RestClient.Http

open Text (Octets)

/-! ### Content types -/

/-- The content types that headers say, under a name in any case of its letters. -/
def contentTypes (headers : Headers) : List String :=
  (headers.filter fun h => lowerAsciiText h.1 == contentTypeName).map Prod.snd

/-- The content type that a payload has by itself. -/
def Payload.contentType? : Payload → Option String
  | .empty => none
  | .body b => b.contentType
  | .multipart _ => some multipartType

/-- Whether a payload is made of parts. -/
def Payload.hasParts : Payload → Bool
  | .multipart _ => true
  | _ => false

theorem contentType?_of_hasParts {p : Payload} (h : p.hasParts = true) :
    p.contentType? = some multipartType := by
  cases p with
  | multipart parts => rfl
  | _ => cases h

/-- The content types that are sent. -/
def Transmission.contentTypes (t : Transmission) : List Octets :=
  (t.headers.filter fun h => h.1 == contentTypeName).map Prod.snd

/-- What is sent says one content type at most: that of the headers if they say one, else that of
the payload if it has one. -/
def SaysOnce (r : Request) (t : Transmission) : Prop :=
  t.contentTypes =
    (((contentTypes r.headers).head?.or r.payload.contentType?).map Text.octetsOf).toList

theorem contentTypes_nil : contentTypes [] = [] := rfl

theorem contentTypes_append (front back : Headers) :
    contentTypes (front ++ back) = contentTypes front ++ contentTypes back := by
  simp [contentTypes]

theorem saysContentType_iff {headers : Headers} :
    saysContentType headers = true ↔ contentTypes headers ≠ [] := by
  simp [saysContentType, contentTypes]

/-- The content types under the name of their own. -/
theorem contentTypes_named (types : List String) :
    contentTypes (types.map (contentTypeName, ·)) = types := by
  have hname : lowerAsciiText contentTypeName = contentTypeName := by decide
  simp [contentTypes, List.filter_map, Function.comp_def, hname]

/-- A payload adds its content type unless the headers say one; one of parts always does. -/
theorem contentTypes_contentHeaders (r : Request) :
    contentTypes (contentHeaders r) =
      if contentTypes r.headers = [] ∨ r.payload.hasParts = true
      then r.payload.contentType?.toList else [] := by
  unfold contentHeaders
  cases r.payload with
  | empty => simp [Payload.contentType?, contentTypes_nil]
  | multipart parts =>
    simpa [Payload.contentType?, Payload.hasParts] using contentTypes_named [multipartType]
  | body b =>
    by_cases hnone : contentTypes r.headers = []
    · have hquiet : saysContentType r.headers ≠ true := fun h => saysContentType_iff.mp h hnone
      simpa [hnone, hquiet, Payload.contentType?] using contentTypes_named b.contentType.toList
    · have hsays := saysContentType_iff.mpr hnone
      simp [hnone, hsays, Payload.hasParts, contentTypes_nil]

/-- A header is sent under its name in lower case, with its value. -/
theorem writeHeader?_eq_some {header : String × String} {written : String × Octets}
    (h : writeHeader? header = some written) :
    written = (lowerAsciiText header.1, Text.octetsOf header.2) := by
  obtain ⟨name, hname, hrest⟩ := Option.bind_eq_some_iff.mp h
  obtain ⟨value, hvalue, hwritten⟩ := Option.bind_eq_some_iff.mp hrest
  obtain rfl := Option.some.inj hwritten
  unfold headerName? at hname
  unfold headerValue? at hvalue
  split at hname
  · cases hname
  · dsimp only at hvalue
    split at hvalue
    · rw [Option.some.inj hname, Option.some.inj hvalue]
    · cases hvalue

theorem transmit_eq_ok {r : Request} {t : Transmission} :
    transmit r = .ok t ↔ transmission? r = some t := by
  unfold transmit
  cases transmission? r <;> simp

theorem exists_transmit {r : Request} (h : (transmission? r).isSome = true) :
    ∃ t, transmit r = .ok t := by
  simpa only [transmit_eq_ok] using Option.isSome_iff_exists.mp h

theorem headers_of_transmit {r : Request} {t : Transmission} (h : transmit r = .ok t) :
    t.headers = (sentHeaders r).map fun header =>
      (lowerAsciiText header.1, Text.octetsOf header.2) := by
  have hsent := transmit_eq_ok.mp h
  unfold transmission? at hsent
  dsimp only at hsent
  split at hsent
  · cases hsent
  · obtain ⟨headers, hheaders, hrest⟩ := Option.bind_eq_some_iff.mp hsent
    obtain ⟨content, -, ht⟩ := Option.bind_eq_some_iff.mp hrest
    obtain rfl := Option.some.inj ht
    have hwritten := (Outcome.mapM_eq_some.mp hheaders).imp fun _ _ h =>
      (writeHeader?_eq_some h).symm
    rw [← List.forall₂_map_left_iff, List.forall₂_eq_eq_eq] at hwritten
    exact hwritten.symm

/-- The content types of a request are sent as they are. -/
theorem contentTypes_of_transmit {r : Request} {t : Transmission} (h : transmit r = .ok t) :
    t.contentTypes = (contentTypes (sentHeaders r)).map Text.octetsOf := by
  rw [Transmission.contentTypes, headers_of_transmit h]
  simp [contentTypes, List.filter_map, Function.comp_def]

/-! ### The result -/

/-- Where the headers of a request say one content type at most, the right one is sent and no other,
unless the headers say one and the payload is made of parts. Then both are sent, the one of the
headers first. -/
theorem content_type_said_once_iff {r : Request} {t : Transmission} (hsent : transmit r = .ok t)
    (hone : (contentTypes r.headers).length ≤ 1) :
    (SaysOnce r t ↔ contentTypes r.headers = [] ∨ r.payload.hasParts = false) ∧
      ∀ explicit, contentTypes r.headers = [explicit] → r.payload.hasParts = true →
        t.contentTypes = [Text.octetsOf explicit, Text.octetsOf multipartType] := by
  have htypes := contentTypes_of_transmit hsent
  rw [sentHeaders, contentTypes_append, contentTypes_contentHeaders] at htypes
  unfold SaysOnce
  match hheaders : contentTypes r.headers with
  | [] =>
    rw [hheaders] at htypes
    refine ⟨iff_of_true ?_ (.inl rfl), nofun⟩
    rw [htypes]
    cases r.payload.contentType? <;> rfl
  | [explicit] =>
    rw [hheaders] at htypes
    cases hparts : r.payload.hasParts with
    | false =>
      have hsaid : t.contentTypes = [Text.octetsOf explicit] := by
        rw [htypes]
        simp [hparts]
      exact ⟨iff_of_true hsaid (.inr rfl), fun _ _ => nofun⟩
    | true =>
      have hboth : t.contentTypes = [Text.octetsOf explicit, Text.octetsOf multipartType] := by
        rw [htypes, contentType?_of_hasParts hparts]
        simp [hparts]
      refine ⟨iff_of_false (fun h => ?_) (by simp), fun other hother _ => ?_⟩
      · rw [hboth] at h
        cases h
      · rwa [← List.singleton_inj.mp hother]
  | _ :: _ :: _ => simp [hheaders] at hone

/-- A note with a payload, whose headers say what the payload is. -/
def labelled (payload : Payload) : Request :=
  ⟨.post, "http://server/notes", [("Content-Type", "text/plain")], payload⟩

theorem content_type_said_once_iff_labelled : ∃ t,
    transmit (labelled (.body (.json "{}"))) = .ok t ∧
      (contentTypes (labelled (.body (.json "{}"))).headers).length ≤ 1 ∧
      t.contentTypes = [Text.octetsOf "text/plain"] := by
  obtain ⟨t, ht⟩ := exists_transmit (r := labelled (.body (.json "{}"))) (by decide +kernel)
  have htypes : contentTypes (labelled (.body (.json "{}"))).headers = ["text/plain"] := by
    decide
  have hone : (contentTypes (labelled (.body (.json "{}"))).headers).length ≤ 1 := by
    rw [htypes]
    exact Nat.le_refl 1
  have hsaid := (content_type_said_once_iff ht hone).1.mpr (.inr rfl)
  refine ⟨t, ht, hone, ?_⟩
  rw [hsaid, htypes]
  rfl

/-- Beside the content type in the headers a payload of parts says its own. -/
theorem content_type_of_parts_doubled :
    let r := labelled (.multipart [⟨"note", ⟨none, Text.octetsOf "hi"⟩⟩])
    contentTypes r.headers = ["text/plain"] ∧ ∃ t, transmit r = .ok t ∧
      t.contentTypes = [Text.octetsOf "text/plain", Text.octetsOf multipartType] ∧
      ¬ SaysOnce r t := by
  intro r
  have htypes : contentTypes r.headers = ["text/plain"] := by decide
  have hsent : contentTypes (sentHeaders r) = ["text/plain", multipartType] := by decide
  obtain ⟨t, ht⟩ := exists_transmit (r := r) (by decide +kernel)
  have hboth : t.contentTypes = [Text.octetsOf "text/plain", Text.octetsOf multipartType] := by
    rw [contentTypes_of_transmit ht, hsent]
    rfl
  refine ⟨htypes, t, ht, hboth, fun honce => ?_⟩
  rw [SaysOnce, hboth, htypes] at honce
  cases honce

end RestClient.Http
