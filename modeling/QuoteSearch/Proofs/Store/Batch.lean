import QuoteSearch.Proofs.Store.Run

/-! # Writing quotes in a batch

The quotes of one call are all written, under the next numbers and in the order given, or none of
them is. The call fails exactly if one of the quotes cannot be written; the numbers of those that
stand before it are then free again.
-/

namespace QuoteSearch.Store

/-- The quotes of a batch are all written, as if one after the other, or none of them leaves a trace. -/
structure WritesAllOrNone (s : Store) (c : Catalog) (videoId : String) (quotes : List NewQuote) : Prop where
  fails_iff : (∃ fault, s.insertQuotes videoId quotes = .error fault) ↔
    quotes ≠ [] ∧ (videoId ∉ c.videos.map Video.id ∨
      ∃ q ∈ quotes, Decimal.isNotANumber q.startTime = true ∨ Decimal.isNotANumber q.endTime = true)
  discarded : ∀ fault, s.insertQuotes videoId quotes = .error fault →
    s.after (.insertQuotes videoId quotes) = s ∧
      ∀ later, s.run (.insertQuotes videoId quotes :: later) = s.run later
  anywhere : ∀ fault, s.insertQuotes videoId quotes = .error fault →
    ∃ before q rest why, quotes = before ++ q :: rest ∧ fault = WriteFault.toStore why ∧
      c.insertQuotes videoId before = .ok (c.withQuotes videoId before) ∧
      (c.withQuotes videoId before).insertQuote videoId q = .error why
  written : ∀ count s', s.insertQuotes videoId quotes = .ok (count, s') →
    count = quotes.length ∧ ∃ c', s' = { s with tables := some c' } ∧ c'.videos = c.videos ∧
      c'.quotes = c.quotes ++ quotes.mapIdx fun i q =>
        { id := (c.quotes.length + 1 + i : Nat)
          videoId
          startTime := Decimal.withoutNegativeZero q.startTime
          endTime := Decimal.withoutNegativeZero q.endTime
          content := q.content }
  parts : ∀ first second, quotes = first ++ second →
    s.insertQuotes videoId quotes = do
      let (count, s₁) ← s.insertQuotes videoId first
      let (count', s₂) ← s₁.insertQuotes videoId second
      return (count + count', s₂)

variable {s : Store} {c : Catalog}

theorem Holds.insertQuotes_eq (hHolds : s.Holds c) (hWritable : s.address.readOnly = false) (videoId : String)
    (quotes : List NewQuote) :
    s.insertQuotes videoId quotes = ((c.insertQuotes videoId quotes).mapError WriteFault.toStore).map fun c' =>
      (quotes.length, { s with tables := some c' }) := by
  cases quotes with
  | nil =>
    simp only [Catalog.insertQuotes_nil, Except.mapError, Except.map, hHolds.withCatalog_eq]
    rfl
  | cons q rest =>
    rw [insertQuotes, writeQuotes_cons, hHolds.transact_eq hWritable, Catalog.insertQuotes, Attempt.passed]
    cases (c.insertEach videoId (q :: rest)).outcome <;> rfl

theorem Holds.insertQuotes_append (hHolds : s.Holds c) (hWritable : s.address.readOnly = false) (videoId : String)
    (first second : List NewQuote) :
    s.insertQuotes videoId (first ++ second) = do
      let (count, s₁) ← s.insertQuotes videoId first
      let (count', s₂) ← s₁.insertQuotes videoId second
      return (count + count', s₂) := by
  rw [hHolds.insertQuotes_eq hWritable, hHolds.insertQuotes_eq hWritable, c.insertQuotes_append]
  cases c.insertQuotes videoId first with
  | error why => rfl
  | ok c₁ =>
    have hSecond := (hHolds.withCatalog c₁).insertQuotes_eq hWritable videoId second
    simp only [Except.bind, Except.mapError, Except.map, bind, pure, Except.pure] at hSecond ⊢
    rw [hSecond, List.length_append]
    cases c₁.insertQuotes videoId second <;> rfl

theorem Holds.insertQuotes_eq_error_iff (hHolds : s.Holds c) (hWritable : s.address.readOnly = false)
    {videoId : String} {quotes : List NewQuote} {fault : StoreFault} :
    s.insertQuotes videoId quotes = .error fault ↔
      ∃ why, c.insertQuotes videoId quotes = .error why ∧ fault = WriteFault.toStore why := by
  rw [hHolds.insertQuotes_eq hWritable]
  cases c.insertQuotes videoId quotes with
  | error why => simp [Except.mapError, Except.map, eq_comm]
  | ok c' => simp [Except.mapError, Except.map]

theorem Holds.insertQuotes_eq_ok_iff (hHolds : s.Holds c) (hWritable : s.address.readOnly = false)
    {videoId : String} {quotes : List NewQuote} {count : Nat} {s' : Store} :
    s.insertQuotes videoId quotes = .ok (count, s') ↔ ∃ c', c.insertQuotes videoId quotes = .ok c' ∧
      count = quotes.length ∧ s' = { s with tables := some c' } := by
  rw [hHolds.insertQuotes_eq hWritable]
  cases c.insertQuotes videoId quotes with
  | error why => simp [Except.mapError, Except.map]
  | ok c' => simp [Except.mapError, Except.map, eq_comm]

/-- A write of quotes succeeds as a whole, or fails and leaves the store as it was. -/
theorem insertQuotes_writes_all_or_none (hReachable : s.Reachable) (hHolds : s.Holds c) (videoId : String)
    (quotes : List NewQuote) : WritesAllOrNone s c videoId quotes := by
  have hWritable := hReachable.readOnly_eq_false hHolds
  refine ⟨?_, fun fault hFault => ?_, fun fault hFault => ?_, fun count s' hWritten => ?_, ?_⟩
  · simp only [hHolds.insertQuotes_eq_error_iff hWritable, exists_comm (α := StoreFault), exists_and_left,
      exists_eq, and_true, Catalog.exists_insertQuotes_eq_error_iff, NewQuote.IsTimed, not_and_or,
      Bool.not_eq_false]
  · have hSame : s.after (.insertQuotes videoId quotes) = s := after_insertQuotes_of_error hFault
    exact ⟨hSame, fun later => congrArg (·.run later) hSame⟩
  · obtain ⟨why, hWhy, rfl⟩ := (hHolds.insertQuotes_eq_error_iff hWritable).mp hFault
    obtain ⟨before, q, rest, hQuotes, hBefore, hBad⟩ := Catalog.exists_of_insertQuotes_eq_error hWhy
    exact ⟨before, q, rest, why, hQuotes, rfl, hBefore, hBad⟩
  · obtain ⟨c', hCatalog, hCount, hStore⟩ := (hHolds.insertQuotes_eq_ok_iff hWritable).mp hWritten
    obtain ⟨-, -, rfl⟩ := Catalog.insertQuotes_eq_ok_iff.mp hCatalog
    refine ⟨hCount, _, hStore, rfl, congrArg (c.quotes ++ ·) ?_⟩
    rw [(hReachable.catalog_wellFormed hHolds).lastQuote_eq, Catalog.numberFrom_map]
    rfl
  · rintro first second rfl
    exact hHolds.insertQuotes_append hWritable videoId first second

/-- The second quote has no start, and the first one was written when this is found. -/
theorem sample_insertQuotes_writes_all_or_none :
    sample.Reachable ∧ sample.Holds sampleCatalog ∧
      WritesAllOrNone sample sampleCatalog "hardcore001"
        [⟨70, 72, "one"⟩, ⟨0.0 / 0.0, 74, "two"⟩, ⟨74, 76, "three"⟩] :=
  ⟨reachable_sample, holds_sample, insertQuotes_writes_all_or_none reachable_sample holds_sample _ _⟩

end QuoteSearch.Store
