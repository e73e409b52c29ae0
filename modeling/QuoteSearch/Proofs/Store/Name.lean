import QuoteSearch.Proofs.Store.Address
import QuoteSearch.Store.Name

/-! # Paths in names of databases

The path that is opened under a name is never longer than the name. It is the name itself exactly if nothing in
the name is taken for a URI.
-/

namespace QuoteSearch

open Text

/-- A path that an address leads to if it is put into it as it is. -/
structure StandsForFile (path : List Char) : Prop where
  literal : StoreAddress.IsLiteral path
  noUri : ¬ Opening.uriScheme <+: path
  noZero : '\x00' ∉ path

namespace Opening

variable {o o' : Opening} {part rest text : List Char} {path name : String} {mode : AccessMode} {a : StoreAddress}

theorem length_bytesOf_le_of_sublist (h : part.Sublist text) : (bytesOf part).length ≤ (bytesOf text).length :=
  (h.flatMap _).length_le

theorem eq_of_length_bytesOf_le (h : part.Sublist text) (hLength : (bytesOf text).length ≤ (bytesOf part).length) :
    part = text := by
  have hBytes : bytesOf part = bytesOf text := (h.flatMap fun c => utf8Bytes c.toNat).eq_of_length_le hLength
  have hDecoded : decode (bytesOf part) = .ok text := by rw [hBytes, decode_bytesOf]
  exact Except.ok.inj ((decode_bytesOf part).symm.trans hDecoded)

theorem length_bytesOf_uriText_le (h : uriText part = some path) :
    (bytesOf path.toList).length ≤ (bytesOf part).length := by
  rw [uriText] at h
  split at h
  · rename_i text hText
    cases h
    rw [String.toList_ofList]
    calc (bytesOf text).length
      _ ≤ ((percentDecode (bytesOf part)).takeWhile (· != 0)).length := length_bytesOf_le_of_decode hText
      _ ≤ (percentDecode (bytesOf part)).length := (List.takeWhile_sublist _).length_le
      _ ≤ (bytesOf part).length := length_percentDecode_le _
  · cases h

theorem place_withOption {value : String} (h : o.withOption name value = .ok o') : o'.place = o.place := by
  rw [withOption] at h
  split_ifs at h
  · cases h
    rfl
  · cases h
    rfl
  · split at h
    · cases h
    · split_ifs at h
      cases h
      rfl
  · cases h
    rfl

theorem place_withOptions {options : List (String × String)} (h : o.withOptions options = .ok o') :
    o'.place = o.place := by
  induction options generalizing o with
  | nil => rw [← Except.ok.inj h]
  | cons option rest ih =>
    obtain ⟨middle, hFirst, hRest⟩ := exists_of_bind_eq_ok h
    exact (ih hRest).trans (place_withOption hFirst)

theorem behindAuthority_sublist (h : behindAuthority rest = .ok text) : text.Sublist rest := by
  rw [behindAuthority.eq_def] at h
  split at h
  · simp only [] at h
    split_ifs at h
    cases h
    exact ((List.drop_sublist _ _).cons _).cons _
  · cases h
    exact List.Sublist.refl _

theorem cutAt_sublist (separator : Char) (text : List Char) : (cutAt separator text).1.Sublist text := by
  rw [StoreAddress.cutAt_fst]
  exact List.takeWhile_sublist _

theorem length_bytesOf_ofUri_le (h : ofUri rest mode = .ok o) (hPlace : o.place = .file path) :
    (bytesOf path.toList).length ≤ (bytesOf rest).length := by
  obtain ⟨text, hText, h⟩ := exists_of_bind_eq_ok h
  simp only [] at h
  split at h
  · rename_i found hFound
    cases hPlace.symm.trans (place_withOptions h)
    have hPart := (cutAt_sublist '?' (cutAt '#' text).1).trans (cutAt_sublist '#' text)
    exact (length_bytesOf_uriText_le hFound).trans
      (length_bytesOf_le_of_sublist (hPart.trans (behindAuthority_sublist hText)))
  · cases h

theorem place_of_place_address (h : o.address.place = .file path) : o.place = .file path := by
  rw [address] at h
  split_ifs at h
  exact h

/-- A path that is opened has fewer bytes than the name for it, or is the name. -/
theorem path_of_ofAddress (h : ofAddress a = .ok o) (hPath : o.address.place = .file path) :
    ∃ name, a.place = .file name ∧ ((bytesOf path.toList).length < (bytesOf name.toList).length ∨
      path = name ∧ (a.vfs = none → ¬ uriScheme <+: name.toList ∧ '\x00' ∉ name.toList)) := by
  have hOpened := place_of_place_address hPath
  rw [ofAddress] at h
  split at h
  · cases h
    cases hOpened
  · rename_i name hName
    refine ⟨name, hName, ?_⟩
    split_ifs at h with hVfs hZero hUri
    · cases h
      obtain rfl := StorePlace.file.inj hOpened
      rw [String.toList_ofList]
      -- A path that a zero byte has cut has fewer bytes.
      refine (Nat.lt_or_ge _ _).imp_right fun hLength => ?_
      have hSame := eq_of_length_bytesOf_le (List.takeWhile_sublist _) hLength
      refine ⟨by rw [hSame, String.ofList_toList], fun hNone => ?_⟩
      rw [hNone] at hVfs
      cases hVfs
    · obtain ⟨rest, hRest⟩ := List.isPrefixOf_iff_prefix.mp hUri
      have hLess := length_bytesOf_ofUri_le (eq_ok_of_mapError_eq_ok h) hOpened
      rw [← hRest, List.drop_left] at hLess
      refine .inl (hLess.trans_lt ?_)
      rw [← hRest, bytesOf, bytesOf, List.flatMap_append, List.length_append]
      exact Nat.lt_add_of_pos_left (by decide)
    · cases h
      exact .inr ⟨(StorePlace.file.inj hOpened).symm, fun _ => ⟨mt List.isPrefixOf_iff_prefix.mpr hUri, hZero⟩⟩

theorem ofText_eq_ok {address : String} (h : ofText address = .ok o) :
    ∃ a, StoreAddress.parse address = .ok a ∧ ofAddress a = .ok o := by
  obtain ⟨a, hParse, h⟩ := exists_of_bind_eq_ok h
  obtain ⟨o', hAddress, h⟩ := exists_of_bind_eq_ok h
  refine ⟨a, eq_ok_of_mapError_eq_ok hParse, ?_⟩
  rw [withKnownVfs] at h
  split at h
  · split_ifs at h
    cases h
    exact hAddress
  · cases h
    exact hAddress

theorem ofAddress_of_standsForFile (h : StandsForFile path.toList) :
    ofAddress ⟨.file path, false, none⟩ = .ok ⟨.file path, .create, none⟩ := by
  have hUri : ¬ uriScheme.isPrefixOf path.toList = true := mt List.isPrefixOf_iff_prefix.mp h.noUri
  simp only [ofAddress, Option.isSome_none, Bool.false_eq_true, if_false, h.noZero, hUri, modeOf]

end Opening

end QuoteSearch
