import QuoteSearch.Proofs.Json.Fields
import QuoteSearch.Proofs.Json.Pretty

/-! # Values that are given in part

A document shows a value if it has the parts of the value, the members of a record in any order and among
others. Some keys may be left out on the outer levels. A structure is decoded from such a record as if the
members that are left stood alone and in order.
-/

namespace QuoteSearch.Json

open Decode Document

/-- Whether a key is left where it stands; keys are only removed on the outer levels. -/
def isKept (removed : List String) (levels : Nat) (key : String) : Bool := levels == 0 || !removed.contains key

/-- The members of a record that are left, with the documents that stand for their values. -/
def keptMembers (removed : List String) (levels : Nat) (members : List (String × Json)) (value : String → Document) :
    List (String × Document) :=
  (members.filter fun member => isKept removed levels member.1).map fun member => (member.1, value member.1)

/-- The document has the parts of the value, and of the outer levels those whose keys are not removed. -/
inductive IsShownBy (removed : List String) : Nat → Json → Document → Prop
  | null (levels : Nat) : IsShownBy removed levels .null .null
  | bool (levels : Nat) (b : Bool) : IsShownBy removed levels (.bool b) (.bool b)
  | int (levels : Nat) (n : Int) : IsShownBy removed levels (.int n) (.number (.ok (.ofInt n)))
  | str (levels : Nat) (s : String) : IsShownBy removed levels (.str s) (.string (.ok s))
  | arr {levels : Nat} {items : List Json} {docs : List Document} :
    items.length = docs.length → (∀ pair ∈ items.zip docs, IsShownBy removed levels pair.1 pair.2) →
    IsShownBy removed levels (.arr items) (.list docs none)
  | obj {levels : Nat} {members : List (String × Json)} {value : String → Document}
    {docs others : List (String × Document)} :
    docs.Perm (keptMembers removed levels members value ++ others) →
    (∀ other ∈ others, other.1 ∉ members.map Prod.fst) →
    (∀ member ∈ members, isKept removed levels member.1 = true →
      IsShownBy removed (levels - 1) member.2 (value member.1)) →
    IsShownBy removed levels (.obj members) (.record (keyed docs) none)

section

variable {removed : List String} {levels : Nat} {members : List (String × Json)} {value : String → Document}
  {docs others : List (String × Document)} {checks : List FieldCheck} {α : Type}

/-- What is shown of a record with the given fields. -/
structure ShowsFields (checks : List FieldCheck) (removed : List String) (levels : Nat)
    (members : List (String × Json)) (value : String → Document) (docs : List (String × Document)) : Prop where
  readable : Readable checks docs
  lookup : ∀ member ∈ members, (known checks docs).lookup member.1 =
    if isKept removed levels member.1 then some (value member.1) else none
  passes : firstFault checks docs = none ↔ ∀ member ∈ members, isKept removed levels member.1 = true →
    (checks.lookup member.1).bind (fun fault => fault (value member.1)) = none
  fails : ∀ fault, firstFault checks docs = some fault → ∃ member ∈ members, isKept removed levels member.1 = true ∧
    (checks.lookup member.1).bind (fun fault => fault (value member.1)) = some fault
  skim : ∀ member ∈ members, isKept removed levels member.1 = true → (value member.1).skim = none

theorem isSome_lookup_iff {key : String} (hKeys : checks.map Prod.fst = members.map Prod.fst) :
    (checks.lookup key).isSome = true ↔ key ∈ members.map Prod.fst := by
  rw [← hKeys, Option.isSome_iff_ne_none, ne_eq, List.lookup_eq_none_iff, List.mem_map]
  constructor
  · intro h
    obtain ⟨check, hCheck, hKey⟩ : ∃ check ∈ checks, key = check.1 := by simpa using h
    exact ⟨check, hCheck, hKey.symm⟩
  · rintro ⟨check, hCheck, rfl⟩ h
    simpa using h check hCheck

theorem known_perm (hKeys : checks.map Prod.fst = members.map Prod.fst)
    (hPerm : docs.Perm (keptMembers removed levels members value ++ others))
    (hOthers : ∀ other ∈ others, other.1 ∉ members.map Prod.fst) :
    (known checks docs).Perm (keptMembers removed levels members value) := by
  have hKept : known checks (keptMembers removed levels members value) = keptMembers removed levels members value := by
    rw [known, List.filter_eq_self]
    intro doc hDoc
    obtain ⟨member, hMember, rfl⟩ := List.mem_map.mp hDoc
    exact (isSome_lookup_iff hKeys).mpr (List.mem_map_of_mem (List.mem_of_mem_filter hMember))
  have hUnknown : known checks others = [] := by
    rw [known, List.filter_eq_nil_iff]
    exact fun other hOther => mt (isSome_lookup_iff hKeys).mp (hOthers other hOther)
  have hKnown := hPerm.filter fun doc => (checks.lookup doc.1).isSome
  rw [List.filter_append] at hKnown
  change (known checks docs).Perm (known checks _ ++ known checks _) at hKnown
  rwa [hKept, hUnknown, List.append_nil] at hKnown

theorem mem_keptMembers_iff {doc : String × Document} : doc ∈ keptMembers removed levels members value ↔
    ∃ member ∈ members, isKept removed levels member.1 = true ∧ doc = (member.1, value member.1) := by
  simp only [keptMembers, List.mem_map, List.mem_filter, and_assoc, eq_comm]

theorem showsFields (hKeys : checks.map Prod.fst = members.map Prod.fst) (hOnce : (members.map Prod.fst).Nodup)
    (hPerm : docs.Perm (keptMembers removed levels members value ++ others))
    (hOthers : ∀ other ∈ others, other.1 ∉ members.map Prod.fst) (hSkim : ∀ doc ∈ docs, doc.2.skim = none) :
    ShowsFields checks removed levels members value docs := by
  have hKnown := known_perm hKeys hPerm hOthers
  have hNodup : ((known checks docs).map Prod.fst).Nodup := by
    rw [(hKnown.map Prod.fst).nodup_iff, keptMembers, List.map_map]
    exact hOnce.sublist (List.Sublist.map _ List.filter_sublist)
  have hField : ∀ doc ∈ docs, (checks.lookup doc.1).isSome = true →
      ∃ member ∈ members, isKept removed levels member.1 = true ∧ doc = (member.1, value member.1) :=
    fun doc hDoc hSome => mem_keptMembers_iff.mp (hKnown.mem_iff.mp (List.mem_filter.mpr ⟨hDoc, hSome⟩))
  have hGiven : ∀ member ∈ members, isKept removed levels member.1 = true → (member.1, value member.1) ∈ docs := by
    intro member hMember hKept
    exact hPerm.mem_iff.mpr (List.mem_append_left _ (mem_keptMembers_iff.mpr ⟨member, hMember, hKept, rfl⟩))
  constructor
  case readable => exact ⟨hNodup, fun doc hDoc _ => hSkim doc hDoc⟩
  case lookup =>
    intro member hMember
    split
    · rename_i hKept
      exact lookup_eq_some_of_mem hNodup (hKnown.mem_iff.mpr (mem_keptMembers_iff.mpr ⟨member, hMember, hKept, rfl⟩))
    · rename_i hKept
      rw [List.lookup_eq_none_iff]
      intro doc hDoc
      obtain ⟨other, -, hOther, rfl⟩ := mem_keptMembers_iff.mp (hKnown.mem_iff.mp hDoc)
      rw [bne_iff_ne]
      rintro hName
      exact hKept (hName ▸ hOther)
  case passes =>
    rw [firstFault, List.findSome?_eq_none_iff]
    constructor
    · intro hNone member hMember hKept
      exact hNone (member.1, value member.1) (hGiven member hMember hKept)
    · intro hPasses doc hDoc
      cases hCheck : checks.lookup doc.1 with
      | none => rfl
      | some fault =>
        obtain ⟨member, hMember, hKept, rfl⟩ := hField doc hDoc (by rw [hCheck]; rfl)
        exact hCheck ▸ hPasses member hMember hKept
  case fails =>
    intro fault hFault
    obtain ⟨doc, hDoc, hCheck⟩ := List.exists_of_findSome?_eq_some hFault
    obtain ⟨check, hSome, -⟩ := Option.bind_eq_some_iff.mp hCheck
    obtain ⟨member, hMember, hKept, rfl⟩ := hField doc hDoc (by rw [hSome]; rfl)
    exact ⟨member, hMember, hKept, hCheck⟩
  case skim => exact fun member hMember hKept => hSkim _ (hGiven member hMember hKept)

theorem skim_of_skimMembers (h : skimMembers (keyed docs) = none) : ∀ doc ∈ docs, doc.2.skim = none := by
  induction docs with
  | nil => exact fun _ hDoc => (by cases hDoc)
  | cons doc docs ih =>
    rw [keyed, List.map_cons, skimMembers, Option.or_eq_none_iff] at h
    exact List.forall_mem_cons.mpr ⟨h.1, ih h.2⟩

theorem exists_showsFields {decoder : Decoder α} {structureName : String} {build : Fields → Except DecodeFault α}
    {doc : Document} (hDecoder : decoder = struct structureName checks build)
    (h : IsShownBy removed levels (.obj members) doc) (hSkim : doc.skim = none)
    (hKeys : checks.map Prod.fst = members.map Prod.fst) (hOnce : (members.map Prod.fst).Nodup) :
    ∃ value docs, ShowsFields checks removed levels members value docs ∧
      (∀ member ∈ members, isKept removed levels member.1 = true →
        IsShownBy removed (levels - 1) member.2 (value member.1)) ∧
      decoder doc = (firstFault checks docs).elim (build ⟨known checks docs, .missingField⟩) .error := by
  cases h with
  | @obj _ _ value docs others hPerm hOthers hValues =>
    rw [Document.skim, Option.or_eq_none_iff] at hSkim
    have hShows := showsFields hKeys hOnce hPerm hOthers (skim_of_skimMembers hSkim.1)
    refine ⟨value, docs, hShows, hValues, ?_⟩
    rw [hDecoder, struct_record hShows.readable]

theorem ShowsFields.get (h : ShowsFields checks removed levels members value docs) {key : String} {v : Json}
    (hMember : (key, v) ∈ members) {decoder : Decoder α} {a : α}
    (hValue : isKept removed levels key = true → decoder (value key) = .ok a) :
    Fields.get ⟨known checks docs, .missingField⟩ key decoder =
      if isKept removed levels key then .ok a else .error (.missingField key) :=
  Fields.get_eq_ite (h.lookup _ hMember) hValue

theorem ShowsFields.getD (h : ShowsFields checks removed levels members value docs) {key : String} {v : Json}
    (hMember : (key, v) ∈ members) {decoder : Decoder α} {a : α}
    (hValue : isKept removed levels key = true → decoder (value key) = .ok a) (default : α) :
    Fields.getD ⟨known checks docs, .missingField⟩ key decoder default =
      .ok (if isKept removed levels key then a else default) :=
  Fields.getD_eq_ite (h.lookup _ hMember) hValue default

end

section

variable {removed : List String} {levels : Nat} {doc : Document}

theorem isKept_succ_iff {key : String} : isKept removed (levels + 1) key = true ↔ key ∉ removed := by
  simp [isKept]

theorem skim_of_skimItems {docs : List Document} (h : skimItems docs = none) : ∀ doc ∈ docs, doc.skim = none := by
  induction docs with
  | nil => exact fun _ hDoc => (by cases hDoc)
  | cons doc docs ih =>
    rw [skimItems, Option.or_eq_none_iff] at h
    exact List.forall_mem_cons.mpr ⟨h.1, ih h.2⟩

variable {α : Type} {item : Decoder α} {toJson : α → Json} {as : List α}

theorem items_of_isShownBy {docs : List Document} (hLength : (as.map toJson).length = docs.length)
    (hShown : ∀ pair ∈ (as.map toJson).zip docs, IsShownBy removed levels pair.1 pair.2)
    (hSkim : ∀ doc ∈ docs, doc.skim = none)
    (hItem : ∀ a doc, IsShownBy removed levels (toJson a) doc → doc.skim = none → item doc = .ok a) :
    Decode.items item docs = .ok as := by
  induction as generalizing docs with
  | nil =>
    obtain rfl := List.length_eq_zero_iff.mp hLength.symm
    rfl
  | cons a as ih =>
    cases docs with
    | nil => cases hLength
    | cons doc docs =>
      rw [List.map_cons, List.zip_cons_cons] at hShown
      obtain ⟨hFirst, hRest⟩ := List.forall_mem_cons.mp hShown
      obtain ⟨hFirstSkim, hRestSkim⟩ := List.forall_mem_cons.mp hSkim
      rw [Decode.items, hItem a doc hFirst hFirstSkim, ih (Nat.succ.inj hLength) hRest hRestSkim]
      rfl

theorem list_of_isShownBy (h : IsShownBy removed levels (.arr (as.map toJson)) doc) (hSkim : doc.skim = none)
    (hItem : ∀ a doc, IsShownBy removed levels (toJson a) doc → doc.skim = none → item doc = .ok a) :
    Decode.list item doc = .ok as := by
  cases h with
  | @arr _ _ docs hLength hShown =>
    rw [Document.skim, Option.or_eq_none_iff] at hSkim
    rw [Decode.list, items_of_isShownBy hLength hShown (skim_of_skimItems hSkim.1) hItem]
    rfl

end

end QuoteSearch.Json
