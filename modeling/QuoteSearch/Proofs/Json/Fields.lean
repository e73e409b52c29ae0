import QuoteSearch.Json.Decode
import QuoteSearch.Proofs.Basic
import Mathlib.Data.List.Forall2

/-! # Records

A record is decoded field by field wherever its fields stand: unknown members are left out, and a field
that is given has the value that its decoder reads.
-/

namespace QuoteSearch

namespace Json.Decode

variable {checks : List FieldCheck} {given members : List (String × Document)} {α : Type}

/-- Members with the given keys as they stand in a record. -/
def keyed (members : List (String × Document)) : List (Token String × Document) :=
  members.map fun member => (.ok member.1, member.2)

def known (checks : List FieldCheck) (members : List (String × Document)) : List (String × Document) :=
  members.filter fun member => (checks.lookup member.1).isSome

/-- No field is given twice, and the other members can be skimmed. -/
structure Readable (checks : List FieldCheck) (members : List (String × Document)) : Prop where
  once : ((known checks members).map Prod.fst).Nodup
  others : ∀ member ∈ members, checks.lookup member.1 = none → member.2.skim = none

/-- The fault of the first member that does not pass the check of its field. -/
def firstFault (checks : List FieldCheck) (members : List (String × Document)) : Option DecodeFault :=
  members.findSome? fun member => (checks.lookup member.1).bind fun fault => fault member.2

theorem namedFields_unknown {name : String} {doc : Document} (hName : checks.lookup name = none)
    (hDoc : doc.skim = none) : namedFields checks given (keyed ((name, doc) :: members)) =
      namedFields checks given (keyed members) := by
  rw [keyed, List.map_cons, namedFields]
  refine bind_eq_of_ok rfl ?_
  simp only [hName, hDoc]
  rfl

theorem namedFields_known {name : String} {doc : Document} {fault : Document → Option DecodeFault}
    (hName : checks.lookup name = some fault) (hNew : given.lookup name = none) :
    namedFields checks given (keyed ((name, doc) :: members)) =
      (fault doc).elim (namedFields checks (given ++ [(name, doc)]) (keyed members)) .error := by
  rw [keyed, List.map_cons, namedFields]
  refine bind_eq_of_ok rfl ?_
  simp only [hName, hNew]
  cases fault doc <;> rfl

theorem namedFields_eq (h : Readable checks members)
    (hOnce : ((given ++ known checks members).map Prod.fst).Nodup) :
    namedFields checks given (keyed members) =
      (firstFault checks members).elim (.ok (given ++ known checks members)) .error := by
  induction members generalizing given with
  | nil =>
    rw [known, List.filter_nil, List.append_nil]
    rfl
  | cons member rest ih =>
    obtain ⟨name, doc⟩ := member
    obtain ⟨hOther, hOthers⟩ := List.forall_mem_cons.mp h.others
    rw [firstFault, List.findSome?_cons, ← firstFault]
    cases hName : checks.lookup name with
    | none =>
      have hKnown : known checks ((name, doc) :: rest) = known checks rest :=
        List.filter_cons_of_neg (by simp [hName])
      rw [hKnown] at hOnce ⊢
      rw [namedFields_unknown hName (hOther hName)]
      exact ih ⟨hKnown ▸ h.once, hOthers⟩ hOnce
    | some fault =>
      have hKnown : known checks ((name, doc) :: rest) = (name, doc) :: known checks rest :=
        List.filter_cons_of_pos (by simp [hName])
      have hRest : Readable checks rest := by
        have hNodup := h.once
        rw [hKnown, List.map_cons] at hNodup
        exact ⟨hNodup.of_cons, hOthers⟩
      rw [hKnown] at hOnce ⊢
      have hNew : given.lookup name = none := lookup_eq_none_of_nodup hOnce
      have hMoved : given ++ (name, doc) :: known checks rest = given ++ [(name, doc)] ++ known checks rest :=
        List.append_cons given (name, doc) (known checks rest)
      rw [namedFields_known hName hNew, Option.bind_some]
      cases fault doc with
      | some e => rfl
      | none =>
        rw [hMoved] at hOnce ⊢
        exact ih hRest hOnce

theorem struct_record (h : Readable checks members) (structureName : String)
    (build : Fields → Except DecodeFault α) :
    struct structureName checks build (.record (keyed members) none) =
      (firstFault checks members).elim (build ⟨known checks members, .missingField⟩) .error := by
  have hFields : fields structureName checks (.record (keyed members) none) =
      (firstFault checks members).elim (.ok ⟨known checks members, .missingField⟩) .error := by
    rw [fields, namedFields_eq h (by rw [List.nil_append]; exact h.once)]
    cases firstFault checks members <;> rfl
  rw [struct, hFields]
  cases firstFault checks members with
  | some fault => rfl
  | none =>
    change (build _ >>= fun a => Except.ok () >>= fun _ => pure a) = build _
    cases build ⟨known checks members, .missingField⟩ <;> rfl

/-- A check and the member that it is for. -/
def Fits (check : FieldCheck) (member : String × Document) : Prop := check.1 = member.1 ∧ check.2 member.2 = none

theorem exists_fits_of_mem (h : List.Forall₂ Fits checks members) {member : String × Document}
    (hMember : member ∈ members) : ∃ fault, (member.1, fault) ∈ checks ∧ fault member.2 = none := by
  induction h with
  | nil => cases hMember
  | @cons check first checks members hFits _ ih =>
    rcases List.mem_cons.mp hMember with rfl | hMember
    · exact ⟨check.2, hFits.1 ▸ List.mem_cons_self, hFits.2⟩
    · obtain ⟨fault, hFault, hNone⟩ := ih hMember
      exact ⟨fault, List.mem_cons_of_mem check hFault, hNone⟩

theorem map_fst_eq (h : List.Forall₂ Fits checks members) : checks.map Prod.fst = members.map Prod.fst := by
  induction h with
  | nil => rfl
  | cons hFits _ ih => rw [List.map_cons, List.map_cons, hFits.1, ih]

/-- A record with just the fields of a structure in their order. -/
theorem struct_complete (hOnce : (checks.map Prod.fst).Nodup) (h : List.Forall₂ Fits checks members)
    (structureName : String) (build : Fields → Except DecodeFault α) :
    struct structureName checks build (.record (keyed members) none) = build ⟨members, .missingField⟩ := by
  have hChecked : ∀ member ∈ members, ∃ fault, checks.lookup member.1 = some fault ∧ fault member.2 = none := by
    intro member hMember
    obtain ⟨fault, hFault, hNone⟩ := exists_fits_of_mem h hMember
    exact ⟨fault, lookup_eq_some_of_mem hOnce hFault, hNone⟩
  have hKnown : known checks members = members := by
    rw [known, List.filter_eq_self]
    intro member hMember
    obtain ⟨fault, hFault, -⟩ := hChecked member hMember
    rw [hFault]
    rfl
  have hReadable : Readable checks members := by
    refine ⟨by rwa [hKnown, ← map_fst_eq h], fun member hMember hOther => ?_⟩
    obtain ⟨own, hOwn, -⟩ := hChecked member hMember
    rw [hOwn] at hOther
    cases hOther
  have hNone : firstFault checks members = none := by
    rw [firstFault, List.findSome?_eq_none_iff]
    intro member hMember
    obtain ⟨fault, hFault, hPasses⟩ := hChecked member hMember
    rw [hFault, Option.bind_some, hPasses]
  rw [struct_record hReadable, hNone, hKnown, Option.elim_none]

namespace Fields

variable {f : Fields} {name : String} {doc : Document} {decoder : Decoder α} {a : α}

theorem get_eq_ok (hGiven : f.given.lookup name = some doc) (hDoc : decoder doc = .ok a) :
    f.get name decoder = .ok a := by
  rw [get, get?, hGiven]
  simp only [hDoc]
  rfl

theorem getD_eq_ok (hGiven : f.given.lookup name = some doc) (hDoc : decoder doc = .ok a) (default : α) :
    f.getD name decoder default = .ok a := by
  rw [getD, get?, hGiven]
  simp only [hDoc]
  rfl

variable {p : Prop} [Decidable p]

theorem get_eq_ite (hGiven : f.given.lookup name = if p then some doc else none) (hDoc : p → decoder doc = .ok a) :
    f.get name decoder = if p then .ok a else .error (f.absent name) := by
  split at hGiven
  · rename_i hp
    rw [if_pos hp]
    exact get_eq_ok hGiven (hDoc hp)
  · rename_i hp
    rw [if_neg hp, get, get?, hGiven]
    rfl

theorem getD_eq_ite (hGiven : f.given.lookup name = if p then some doc else none) (hDoc : p → decoder doc = .ok a)
    (default : α) : f.getD name decoder default = .ok (if p then a else default) := by
  split at hGiven
  · rename_i hp
    rw [if_pos hp]
    exact getD_eq_ok hGiven (hDoc hp) default
  · rename_i hp
    rw [if_neg hp, getD, get?, hGiven]
    rfl

end Fields

theorem check_eq_none {decoder : Decoder α} {doc : Document} {a : α} (h : decoder doc = .ok a) :
    check decoder doc = none := by
  rw [check, h]

theorem list_map_eq_ok {item : Decoder α} {toDocument : α → Document} {as : List α}
    (h : ∀ a ∈ as, item (toDocument a) = .ok a) : list item (.list (as.map toDocument) none) = .ok as := by
  have hItems : items item (as.map toDocument) = .ok as := by
    induction as with
    | nil => rfl
    | cons a rest ih =>
      obtain ⟨hFirst, hRest⟩ := List.forall_mem_cons.mp h
      rw [List.map_cons, items, hFirst, ih hRest]
      rfl
  rw [list, hItems]
  rfl

end Json.Decode

end QuoteSearch
