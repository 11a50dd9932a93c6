import SipContainer.Proofs.Message.Address
import SipContainer.Proofs.Routing.Recovery
/-!
The container hides an identity in the address that it records as a route, and gets the printed
address back with the next request. The identity survives this when its identifier can stand in an
address as it is, and when the address says nothing else under the same names.
-/

namespace SipContainer

open Text Text.Reader

theorem Text.isAlphanumericOctet_hexDigit : ∀ value < 16, (hexDigit value).toNat < 0x80 ∧
    isAlphanumericOctet (UInt8.ofNat (hexDigit value).toNat) = true := by
  decide

theorem Text.word_hex {octets : List UInt8} (filled : octets ≠ []) :
    Word isAlphanumericOctet (hex octets) (bytes (hex octets)) := by
  have digits : ∀ char ∈ octets.flatMap hexOctet, ∃ value < 16, char = hexDigit value := by
    intro char member
    obtain ⟨octet, _, present⟩ := List.mem_flatMap.mp member
    have bound := octet.toNat_lt
    rcases List.mem_cons.mp present with rfl | present
    · exact ⟨octet.toNat / 16, by omega, rfl⟩
    · obtain rfl := List.mem_singleton.mp present
      exact ⟨octet.toNat % 16, by omega, rfl⟩
  have small : ∀ char ∈ octets.flatMap hexOctet, char.toNat < 0x80 := by
    intro char member
    obtain ⟨value, bound, rfl⟩ := digits char member
    exact (isAlphanumericOctet_hexDigit value bound).1
  have spelled : bytes (hex octets) =
      (octets.flatMap hexOctet).map (fun char => UInt8.ofNat char.toNat) := by
    rw [bytes, hex, String.toList_ofList, flatMap_encode small]
  constructor
  · rfl
  · rw [spelled]
    cases octets with
    | nil => exact absurd rfl filled
    | cons octet rest => simp [hexOctet]
  · intro octet member
    rw [spelled] at member
    obtain ⟨char, present, rfl⟩ := List.mem_map.mp member
    obtain ⟨value, bound, rfl⟩ := digits char present
    exact (isAlphanumericOctet_hexDigit value bound).2

theorem Digest.Sha256.digest_ne_nil (message : List UInt8) : (digest message).take 8 ≠ [] := by
  unfold digest
  generalize (blocks (pad message)).foldl absorb State.initial = state
  exact List.cons_ne_nil _ _

namespace NameTable

theorem word_hash (name : String) : Word Uri.isParamOctet (hash name) (bytes (hash name)) := by
  have digits := word_hex (Digest.Sha256.digest_ne_nil (bytes name))
  refine ⟨rfl, digits.filled, ?_⟩
  intro octet member
  have alphanumeric := digits.admitted octet member
  simp [Uri.isParamOctet, Uri.isUnreserved, alphanumeric]

/-- A table as it comes about: names are registered and unregistered. -/
inductive Kept : NameTable → Prop
  | empty : Kept {}
  | register {table : NameTable} (kept : Kept table) (name : String) : Kept (table.register name)
  | unregister {table : NameTable} (kept : Kept table) (name : String) :
      Kept (table.unregister name)

theorem Kept.hash_of_entry {table : NameTable} (kept : table.Kept) :
    ∀ entry ∈ table.entries, entry.1 = hash entry.2 := by
  have erased {table : NameTable} (each : ∀ entry ∈ table.entries, entry.1 = hash entry.2)
      (key : String) : ∀ entry ∈ (table.erase key).entries, entry.1 = hash entry.2 :=
    fun entry member => each entry (List.mem_filter.mp member).1
  induction kept with
  | empty => nofun
  | register kept name ih => exact List.forall_mem_cons.mpr ⟨rfl, erased ih _⟩
  | unregister kept name ih => exact erased ih _

theorem Kept.hash_of_name? {table : NameTable} (kept : table.Kept) {key name : String}
    (known : table.name? key = some name) : key = hash name := by
  obtain ⟨entry, found, rfl⟩ := Option.map_eq_some_iff.mp known
  obtain rfl : entry.1 = key := by simpa using List.find?_some found
  exact kept.hash_of_entry entry (List.mem_of_find?_eq_some found)

end NameTable

/-! ### Addresses with an identity -/

namespace Uri

theorem First.mem {uri : Uri} {name : String} {value : Option String}
    (first : uri.First name value) : ∃ param ∈ uri.params, param.2 = value := by
  obtain ⟨before, param, after, parts, _, holds, _⟩ := first
  refine ⟨param, ?_, holds⟩
  rw [parts]
  exact List.mem_append_right _ List.mem_cons_self

theorem first_append_iff {uri : Uri} {name : String} {value : Option String}
    {added : List UriParam}
    (last : (added.find? (fun param => sameFolded param.1 name)).map Prod.snd = some value) :
    { uri with params := uri.params ++ added }.First name value ↔
      ∀ other, uri.First name other → other = value := by
  simp only [first_iff, List.find?_append]
  cases early : uri.params.find? (fun param => sameFolded param.1 name) with
  | none => simpa using last
  | some param => simp [eq_comm]

end Uri

namespace RouteIdentity

open Uri

variable {identity : RouteIdentity} {base : Uri}

theorem encodeRoute_eq (identity : RouteIdentity) (base : Uri) :
    identity.encodeRoute base =
      { base with params := base.params ++
          [(nameParam, some (NameTable.hash identity.applicationName)),
            (idParam, some identity.applicationId)] } := by
  simp [encodeRoute, withParam]

theorem word_nameParam : Word isParamOctet nameParam (bytes nameParam) :=
  .of_all (by decide) (by decide)

theorem word_idParam : Word isParamOctet idParam (bytes idParam) :=
  .of_all (by decide) (by decide)

theorem nameParam_other : sameFolded nameParam idParam = false := by decide

theorem first_name_encodeRoute :
    (identity.encodeRoute base).First nameParam (some (NameTable.hash identity.applicationName)) ↔
      ∀ value, base.First nameParam value →
        value = some (NameTable.hash identity.applicationName) := by
  rw [encodeRoute_eq]
  apply first_append_iff
  simp [sameFolded]

theorem first_id_encodeRoute :
    (identity.encodeRoute base).First idParam (some identity.applicationId) ↔
      ∀ value, base.First idParam value → value = some identity.applicationId := by
  rw [encodeRoute_eq]
  apply first_append_iff
  rw [List.find?_cons_of_neg (by simp [nameParam_other])]
  simp [sameFolded]

theorem wellFormed_encodeRoute (formed : base.WellFormed)
    (word : Word isParamOctet identity.applicationId (bytes identity.applicationId)) :
    (identity.encodeRoute base).WellFormed := by
  rw [encodeRoute_eq]
  refine ⟨formed.scheme, formed.user, formed.host, ?_⟩
  intro param member
  rcases List.mem_append.mp member with early | late
  · exact formed.params param early
  · rcases List.mem_cons.mp late with rfl | late
    · refine ⟨word_nameParam, ?_⟩
      rintro value ⟨⟩
      exact NameTable.word_hash identity.applicationName
    · obtain rfl := List.mem_singleton.mp late
      refine ⟨word_idParam, ?_⟩
      rintro value ⟨⟩
      exact word

end RouteIdentity

/-! ### Requests with an identity -/

namespace RequestDraft

theorem readUri_of_ok {text : String} {uri : Uri} (parsed : Uri.parse text = .ok uri) :
    readUri text = .ok uri := by
  delta readUri
  rw [parsed]

theorem readUri_of_error {text : String} {fault : InvalidUri}
    (refused : Uri.parse text = .error fault) : readUri text = .error (.uri fault) := by
  delta readUri
  rw [refused]

theorem build_route {draft : RequestDraft} {serial : Nat} {plain : Request}
    (built : { draft with route := none }.build serial = .ok plain) (text : String) :
    { draft with route := some text }.build serial =
      match Uri.parse text with
      | .ok uri => .ok { plain with route := some uri }
      | .error fault => .error (.uri fault) := by
  obtain ⟨method, target, sender, recipient, callId, _⟩ := draft
  cases sender with
  | none => cases built
  | some sender =>
      cases recipient with
      | none => cases built
      | some recipient =>
          cases callId with
          | none => cases built
          | some callId =>
              have absent : Option.mapM readUri none = Except.ok none := rfl
              have given : Option.mapM readUri (some text) = some <$> readUri text := rfl
              simp only [build, require, bind, Except.bind, absent] at built ⊢
              split at built
              · cases built
              · split at built
                · cases built
                · split at built
                  · cases built
                  · cases built
                    rw [given]
                    cases parsed : Uri.parse text with
                    | error fault =>
                        rw [readUri_of_error parsed]
                        rfl
                    | ok uri =>
                        rw [readUri_of_ok parsed]
                        rfl

end RequestDraft

namespace RouteDecision

variable {table : NameTable} {listeners : List Listener} {request : Request}

theorem resolved_iff_carried (kept : table.Kept) {identity : RouteIdentity}
    (known : table.name? (NameTable.hash identity.applicationName) = some identity.applicationName)
    (unmarked : Unmarked request) :
    decide table listeners request = .ok (.resolved identity) ↔
      Carried request (NameTable.hash identity.applicationName) identity.applicationId := by
  constructor
  · intro resolved
    by_cases bare : Bare request
    · cases basis_of_eq bare resolved with
      | resolved present tagged =>
          exact absurd (RouteIdentity.marked_of_tagged tagged) (unmarked _ present)
    · obtain ⟨hash, id, carried⟩ := carried_of_not_bare bare
      rw [decide_of_carried carried] at resolved
      split at resolved
      · rename_i name found
        cases resolved
        rwa [← kept.hash_of_name? found]
      · cases resolved
  · intro carried
    rw [decide_of_carried carried, known]

theorem carried_route_iff {plain : Request} {route : Uri} {hash id : String} (hashFilled : hash ≠ "")
    (idFilled : id ≠ "") :
    Carried { plain with route := some route } hash id ↔
      route.First RouteIdentity.nameParam (some hash) ∧
        route.First RouteIdentity.idParam (some id) := by
  constructor
  · rintro ⟨⟨_, ⟨⟩, first⟩, ⟨_, ⟨⟩, second⟩, _, _⟩
    exact ⟨first, second⟩
  · rintro ⟨first, second⟩
    exact ⟨⟨route, rfl, first⟩, ⟨route, rfl, second⟩, hashFilled, idFilled⟩

/-- A request that comes back over a recorded route has the identity that was recorded exactly when
the identifier needs no escapes and the address carried no other identity before. -/
theorem resolved_recordedRoute_iff (kept : table.Kept) (identity : RouteIdentity)
    (known : table.name? (NameTable.hash identity.applicationName) = some identity.applicationName)
    (filled : identity.applicationId ≠ "") {text : String} {base : Uri}
    (parsed : Uri.parse text = .ok base) {draft : RequestDraft} {serial : Nat} {plain : Request}
    (built : { draft with route := none }.build serial = .ok plain) (unmarked : Unmarked plain)
    (listeners : List Listener) :
    (∃ request, { draft with route := some (identity.encodeRoute base).render }.build serial =
        .ok request ∧ decide table listeners request = .ok (.resolved identity)) ↔
      (∀ octet ∈ bytes identity.applicationId, Uri.isParamOctet octet = true) ∧
        (∀ value, base.First RouteIdentity.nameParam value →
          value = some (NameTable.hash identity.applicationName)) ∧
        ∀ value, base.First RouteIdentity.idParam value →
          value = some identity.applicationId := by
  have hashFilled : NameTable.hash identity.applicationName ≠ "" := by
    rw [ne_eq, ← bytes_eq_nil_iff]
    exact (NameTable.word_hash identity.applicationName).filled
  have recovered (route : Uri) : decide table listeners { plain with route := some route } =
      .ok (.resolved identity) ↔
        route.First RouteIdentity.nameParam (some (NameTable.hash identity.applicationName)) ∧
          route.First RouteIdentity.idParam (some identity.applicationId) := by
    have sameTag : Unmarked { plain with route := some route } := unmarked
    rw [resolved_iff_carried kept known sameTag, carried_route_iff hashFilled filled]
  have formed := Uri.wellFormed_of_parse parsed
  have spelled : bytes identity.applicationId ≠ [] := by
    rwa [ne_eq, bytes_eq_nil_iff]
  rw [RequestDraft.build_route built, ← RouteIdentity.first_name_encodeRoute,
    ← RouteIdentity.first_id_encodeRoute]
  constructor
  · rintro ⟨request, routed, resolved⟩
    split at routed
    · rename_i route read
      cases routed
      obtain ⟨first, second⟩ := (recovered route).mp resolved
      -- The identifier was read from an address, so it needs no escapes, and the address was read
      -- as it had been printed.
      obtain ⟨param, member, holds⟩ := second.mem
      have word := ((Uri.wellFormed_of_parse read).params param member).2 _ holds
      have printed := Uri.parse_render (RouteIdentity.wellFormed_encodeRoute formed word)
      rw [printed] at read
      cases read
      exact ⟨word.admitted, first, second⟩
    · cases routed
  · rintro ⟨admitted, first, second⟩
    have word : Word Uri.isParamOctet identity.applicationId (bytes identity.applicationId) :=
      ⟨rfl, spelled, admitted⟩
    rw [Uri.parse_render (RouteIdentity.wellFormed_encodeRoute formed word)]
    exact ⟨_, rfl, (recovered _).mpr ⟨first, second⟩⟩

end RouteDecision

namespace Sample

def gateway : Uri where
  host := "10.0.0.1"
  params := [("lr", none)]

theorem gateway_wellFormed : gateway.WellFormed where
  scheme := Or.inl rfl
  user := nofun
  host := Or.inl (.of_all (by decide) (by decide))
  params := by
    intro param member
    obtain rfl := List.mem_singleton.mp member
    exact ⟨.of_all (by decide) (by decide), nofun⟩

def draft : RequestDraft where
  method := .info
  target := gateway.render
  sender := some (gateway.render, some "alice-tag")
  recipient := some (gateway.render, some "bob-tag")
  callId := some "call-7"

def drafted : Request where
  method := .info
  target := gateway
  sender := { uri := gateway, tag := some "alice-tag" }
  recipient := { uri := gateway, tag := some "bob-tag" }
  callId := "call-7"
  sequence := 1
  transport := .udp
  route := none
  role := none
  subscription := none
  event := none
  transaction := .generated 0

theorem draft_built : { draft with route := none }.build 0 = .ok drafted := by
  have read := RequestDraft.readUri_of_ok (Uri.parse_render gateway_wellFormed)
  simp only [draft, RequestDraft.build, RequestDraft.require, bind, Except.bind, read]
  rfl

theorem gateway_first {name : String} {value : Option String}
    (first : gateway.First name value) : sameFolded "lr" name = true := by
  obtain ⟨before, param, after, parts, named, _⟩ := first
  have member : param ∈ gateway.params := by
    rw [parts]
    exact List.mem_append_right _ List.mem_cons_self
  obtain rfl := List.mem_singleton.mp member
  exact named

end Sample

/-- An identifier that needs no escapes comes back, one with a host behind it does not. -/
theorem RouteDecision.resolved_recordedRoute_iff_gateway :
    let table := NameTable.register {} "billing"
    let back (id : String) : Prop :=
      let identity : RouteIdentity := { applicationName := "billing", applicationId := id }
      ∃ request, { Sample.draft with route := some (identity.encodeRoute Sample.gateway).render }.build 0 =
        .ok request ∧ decide table [] request = .ok (.resolved identity)
    back "as-1" ∧ ¬ back "as-1@10.0.0.1" := by
  intro table back
  have kept : table.Kept := .register .empty "billing"
  have known : table.name? (NameTable.hash "billing") = some "billing" :=
    NameTable.name?_register_self {} "billing"
  have unmarked : Unmarked Sample.drafted := by
    rintro tag ⟨⟩
    decide
  have exactly (id : String) (filled : id ≠ "") : back id ↔ _ :=
    resolved_recordedRoute_iff kept { applicationName := "billing", applicationId := id } known filled
      (Uri.parse_render Sample.gateway_wellFormed) Sample.draft_built unmarked []
  constructor
  · refine (exactly "as-1" (by decide)).mpr ⟨List.all_eq_true.mp (by decide), ?_, ?_⟩
    · intro value first
      exact absurd (Sample.gateway_first first) (by decide)
    · intro value first
      exact absurd (Sample.gateway_first first) (by decide)
  · intro resolved
    have admitted := ((exactly "as-1@10.0.0.1" (by decide)).mp resolved).1
    exact absurd (List.all_eq_true.mpr admitted) (by decide)

end SipContainer
