import ServiceClient.Log.Line
import ServiceClient.Proofs.ShortNames

/-!
# Columns of log lines

A name with an empty part can be refused, since such a part has no character to be cut to. It is
accepted if all its empty parts are among those that are kept whole.

* `exists_shortName_iff`: which names can be shortened.
* `length_shortName_le`: how long they are then.
* `LogColumns.columns_of_entry`: which entries have columns, and how wide these are.
* `LogColumns.no_columns_of_doubled_dot`: a name that has none.
-/

namespace ServiceClient

variable {name : String} {limit k : Nat}

/-- An empty part is cut if it is not among the last `k` parts. -/
theorem empty_mem_rdrop_iff {parts : List (List Char)} :
    [] ∈ parts.rdrop k ↔ ∃ front back, parts = front ++ [] :: back ∧ k ≤ back.length := by
  constructor
  · intro h
    obtain ⟨front, back, hsplit⟩ := List.append_of_mem h
    have hlength := congrArg List.length hsplit
    rw [List.rdrop, List.length_take, List.length_append, List.length_cons] at hlength
    refine ⟨front, back ++ parts.rtake k, ?_, ?_⟩
    · rw [← List.cons_append, ← List.append_assoc, ← hsplit, List.rdrop, List.rtake,
        List.take_append_drop]
    · rw [List.length_append, length_rtake (by omega)]
      exact Nat.le_add_left k back.length
  · rintro ⟨front, back, rfl, hk⟩
    rw [List.rdrop, List.length_append, List.length_cons]
    exact List.mem_of_getElem? (i := front.length) (by
      rw [List.getElem?_take_of_lt (by omega), List.getElem?_append_right (Nat.le_refl _)]
      simp)

/-- A name is refused exactly if it does not fit and one of its empty parts is not among the last
parts that fit one after the other. -/
theorem exists_shortName_iff (name : String) (limit : Nat) :
    (∃ short, shortName name limit = .ok short) ↔
      name.length ≤ limit ∨ ∀ front back, nameParts name = front ++ [] :: back →
        ∀ j, 1 ≤ j → j ≤ back.length + 1 → lengthWith j (nameParts name) ≤ limit := by
  -- a name that is too long keeps as many parts as fit, and is cut in front of them
  by_cases hlong : limit < name.length
  · obtain ⟨k, hkeeps⟩ := exists_keeps limit (nameParts name)
    rw [shortName_eq hkeeps hlong, or_iff_right (Nat.not_le.2 hlong)]
    constructor
    · rintro ⟨short, hshort⟩ front back hparts j hj hle
      split at hshort
      next => cases hshort
      next hempty =>
        refine hkeeps.fits j hj ?_
        by_contra hlt
        exact hempty (empty_mem_rdrop_iff.2 ⟨front, back, hparts, by omega⟩)
    · intro h
      rw [if_neg]
      · exact ⟨_, rfl⟩
      · intro hempty
        obtain ⟨front, back, hparts, hle⟩ := empty_mem_rdrop_iff.1 hempty
        have hfits := h front back hparts (k + 1) (by omega) (by omega)
        have hstops := hkeeps.stops (hkeeps.lt_length hlong)
        omega
  · rw [Nat.not_lt] at hlong
    exact iff_of_true ⟨name, shortName_of_le hlong⟩ (.inl hlong)

theorem shortName_eq_error {f : Failure} (h : shortName name limit = .error f) :
    f = .stringIndex := by
  by_cases hlong : limit < name.length
  · obtain ⟨k, hkeeps⟩ := exists_keeps limit (nameParts name)
    rw [shortName_eq hkeeps hlong] at h
    split at h
    · exact (Except.error.inj h).symm
    · cases h
  · rw [shortName_of_le (Nat.not_lt.1 hlong)] at h
    cases h

/-- A short name is within the limit, or has one character of each part. -/
theorem length_shortName_le {short : String} (h : shortName name limit = .ok short) :
    short.length ≤ max limit (2 * (nameParts name).length - 1) := by
  have hne := nameParts_ne_nil name
  by_cases hlong : limit < name.length
  · obtain ⟨k, hkeeps⟩ := exists_keeps limit (nameParts name)
    have hstops := hkeeps.stops (hkeeps.lt_length hlong)
    rw [shortName_eq hkeeps hlong] at h
    split at h
    next => cases h
    next hempty =>
      cases h
      split
      -- not even the last part fits, so it is cut to the room that is left
      next hzero =>
        rw [hzero] at hempty hstops
        rw [List.rdrop_zero] at hempty
        exact Nat.le_of_eq (length_dotted_cutLast hne hempty hstops)
      next hk =>
        rw [length_dotted_abbreviate hne hempty]
        exact Nat.le_trans (hkeeps.fits k (Nat.pos_of_ne_zero hk) (Nat.le_refl k))
          (Nat.le_max_left _ _)
  · rw [shortName_of_le (Nat.not_lt.1 hlong)] at h
    cases h
    exact Nat.le_trans (Nat.not_lt.1 hlong) (Nat.le_max_left _ _)

namespace LogColumns

theorem length_tail (width : Nat) (s : String) : (tail width s).length ≤ width := by
  rw [tail, if_neg (by omega), String.length_ofList, List.length_drop]
  omega

theorem ofEntry_eq {maxLogger maxThread : Int} {limit width : Nat}
    (hlimit : limitOr loggerLimit maxLogger = limit)
    (hwidth : limitOr threadLimit maxThread = width) (e : LogEntry) :
    ofEntry maxLogger maxThread e =
      (shortName e.logger limit).map fun logger =>
        ⟨levelName e.level, logger, tail width e.thread⟩ := by
  rw [ofEntry, hlimit, hwidth]
  cases shortName e.logger limit <;> rfl

/-- **Which entries have columns.** Under limits that are set or the standard ones, an entry has
columns exactly if its logger's name fits or all its empty parts are among the last parts that fit
one after the other. Logger and thread are within their limits then, but for a character of each
part of the logger's name. There is no other failure than at an empty part. -/
theorem columns_of_entry {maxLogger maxThread : Int} {limit width : Nat}
    (hlimit : limitOr loggerLimit maxLogger = limit)
    (hwidth : limitOr threadLimit maxThread = width) (e : LogEntry) :
    ((∃ c, ofEntry maxLogger maxThread e = .ok c) ↔
      e.logger.length ≤ limit ∨ ∀ front back, nameParts e.logger = front ++ [] :: back →
        ∀ j, 1 ≤ j → j ≤ back.length + 1 → lengthWith j (nameParts e.logger) ≤ limit) ∧
    (∀ c, ofEntry maxLogger maxThread e = .ok c →
      c.logger.length ≤ max limit (2 * (nameParts e.logger).length - 1) ∧
      c.thread.length ≤ width) ∧
    ∀ f, ofEntry maxLogger maxThread e = .error f → f = .stringIndex := by
  rw [ofEntry_eq hlimit hwidth, ← exists_shortName_iff]
  cases hshort : shortName e.logger limit with
  | ok short =>
    refine ⟨iff_of_true ⟨_, rfl⟩ ⟨short, rfl⟩, ?_, fun f hf => by cases hf⟩
    intro c hc
    cases hc
    exact ⟨length_shortName_le hshort, length_tail width e.thread⟩
  | error f =>
    refine ⟨iff_of_false (by rintro ⟨c, hc⟩; cases hc) (by rintro ⟨short, hc⟩; cases hc),
      fun c hc => (by cases hc), ?_⟩
    intro g hg
    cases hg
    exact shortName_eq_error hshort

/-- A dot at the end leaves an empty part that always fits. -/
theorem columns_of_trailing_dot :
    limitOr loggerLimit 0 = (26 : Nat) ∧ limitOr threadLimit 0 = (12 : Nat) ∧
    ∃ c, ofEntry 0 0 ⟨"application.long.component.name.", 20, "ThreadPoolExecutor-0", "m", [],
        0, 0⟩ = .ok c ∧ c.logger.length ≤ 26 ∧ c.thread.length ≤ 12 := by
  have h := @columns_of_entry 0 0 26 12 (by decide) (by decide)
    ⟨"application.long.component.name.", 20, "ThreadPoolExecutor-0", "m", [], 0, 0⟩
  have hempty : ∀ i < 5, (nameParts "application.long.component.name.")[i]? = some [] → i = 4 := by
    decide +kernel
  obtain ⟨c, hc⟩ := h.1.2 (.inr fun front back hparts j hj hle => by
    have hlength := congrArg List.length hparts
    have hat := hempty front.length
    rw [hparts] at hat
    rw [List.length_append, List.length_cons,
      show (nameParts "application.long.component.name.").length = 5 by decide +kernel] at hlength
    have hlast := hat (by omega) (by simp)
    obtain rfl : j = 1 := by omega
    decide +kernel)
  exact ⟨by decide, by decide, c, hc, h.2.1 c hc⟩

/-- A doubled dot in front of what fits leaves no columns, within the standard limits. -/
theorem no_columns_of_doubled_dot :
    ¬ ∃ c, ofEntry 0 0 ⟨"application..very.long.component.name", 20, "main", "m", [], 0, 0⟩ =
      .ok c := by
  rintro ⟨c, hc⟩
  rw [@ofEntry_eq 0 0 26 12 (by decide) (by decide)] at hc
  have hrefused : ¬ ∃ short, shortName "application..very.long.component.name" (26 : Nat) =
      .ok short := by
    rw [exists_shortName_iff]
    rintro (hfits | hempty)
    · revert hfits
      decide +kernel
    · have hfits := hempty ["application".toList]
        ["very".toList, "long".toList, "component".toList, "name".toList] (by decide +kernel) 4
        (by decide) (by decide)
      revert hfits
      decide +kernel
  cases hshort : shortName "application..very.long.component.name" (26 : Nat) with
  | ok short => exact hrefused ⟨short, hshort⟩
  | error f =>
    rw [hshort] at hc
    cases hc

end LogColumns

end ServiceClient
