import ServiceClient.Failure
import ServiceClient.Text.Case

/-!
# Values that have a text

Every value has a text but those that hold an integer of too many digits. And no text with a
surrogate is a spelling of a name that is a string.

* `Value.hasLongInteger`: whether an integer somewhere in a value has too many digits.
* `Value.quoted?_isSome`: a value can be shown in a container exactly if it has none.
* `Value.displayed_eq_error`: a value that has no text.
* `sameName_loose`: a name is a string in all its spellings.
-/

namespace ServiceClient

namespace Value

mutual

/-- Whether an integer somewhere in a value has too many digits to be written. -/
def hasLongInteger : Value → Bool
  | .int n => isLongInteger n
  | .list items | .tuple items | .set items => itemsHaveLongInteger items
  | .map fields => fieldsHaveLongInteger fields
  | .tagged _ content => content.hasLongInteger
  | _ => false

def itemsHaveLongInteger : List Value → Bool
  | [] => false
  | v :: rest => v.hasLongInteger || itemsHaveLongInteger rest

def fieldsHaveLongInteger : List (Value × Value) → Bool
  | [] => false
  | (k, v) :: rest => k.hasLongInteger || v.hasLongInteger || fieldsHaveLongInteger rest

end

theorem itemsHaveLongInteger_eq_false {items : List Value} :
    itemsHaveLongInteger items = false ↔ ∀ v ∈ items, v.hasLongInteger = false := by
  induction items with
  | nil => exact iff_of_true rfl (List.forall_mem_nil _)
  | cons v rest ih => rw [itemsHaveLongInteger, Bool.or_eq_false_iff, ih, List.forall_mem_cons]

theorem fieldsHaveLongInteger_eq_false {fields : Fields} :
    fieldsHaveLongInteger fields = false ↔
      ∀ f ∈ fields, f.1.hasLongInteger = false ∧ f.2.hasLongInteger = false := by
  induction fields with
  | nil => exact iff_of_true rfl (List.forall_mem_nil _)
  | cons f rest ih =>
    obtain ⟨k, v⟩ := f
    rw [fieldsHaveLongInteger, Bool.or_eq_false_iff, Bool.or_eq_false_iff, ih, List.forall_mem_cons]

mutual

/-- **A value can be shown in a container** exactly if no integer in it is too long. -/
theorem quoted?_isSome : ∀ v : Value, v.quoted?.isSome = !v.hasLongInteger
  | .int n => by
    rw [quoted?, hasLongInteger]
    cases isLongInteger n <;> rfl
  | .list items => by
    rw [quoted?, hasLongInteger, ← quotedItems?_isSome items]
    cases quotedItems? items <;> rfl
  | .tuple items => by
    rw [quoted?, hasLongInteger, ← quotedItems?_isSome items]
    cases quotedItems? items with
    | none => rfl
    | some shown => rcases shown with _ | ⟨x, _ | ⟨y, more⟩⟩ <;> rfl
  | .set items => by
    rw [quoted?, hasLongInteger, ← quotedItems?_isSome items]
    cases quotedItems? items with
    | none => rfl
    | some shown => cases shown <;> rfl
  | .map fields => by
    rw [quoted?, hasLongInteger, ← quotedFields?_isSome fields]
    cases quotedFields? fields <;> rfl
  | .tagged _ content => by
    rw [quoted?, hasLongInteger, ← quoted?_isSome content]
    cases content.quoted? <;> rfl
  | .null | .bool _ | .double _ | .decimal _ | .text _ | .loose _ | .bytes .fixed _
  | .bytes .array _ | .bytes .view _ | .timestamp _ | .symbol _ | .simple _ | .undefined => rfl

theorem quotedItems?_isSome : ∀ items : List Value,
    (quotedItems? items).isSome = !itemsHaveLongInteger items
  | [] => rfl
  | v :: rest => by
    rw [quotedItems?, itemsHaveLongInteger, Bool.not_or, ← quoted?_isSome v,
      ← quotedItems?_isSome rest]
    cases v.quoted? <;> cases quotedItems? rest <;> rfl

theorem quotedFields?_isSome : ∀ fields : List (Value × Value),
    (quotedFields? fields).isSome = !fieldsHaveLongInteger fields
  | [] => rfl
  | (k, v) :: rest => by
    rw [quotedFields?, fieldsHaveLongInteger, Bool.not_or, Bool.not_or, ← quoted?_isSome k,
      ← quoted?_isSome v, ← quotedFields?_isSome rest]
    cases k.quoted? <;> cases v.quoted? <;> cases quotedFields? rest <;> rfl

end

/-- A value by itself has a text exactly if it can be shown in a container. -/
theorem display?_isSome (v : Value) : v.display?.isSome = !v.hasLongInteger := by
  have hquoted : ∀ w : Value, (w.quoted?.map Text.ofString).isSome = !w.hasLongInteger := by
    intro w
    rw [Option.isSome_map, quoted?_isSome]
  cases v <;> first | rfl | exact hquoted _

/-- **A value has no text** exactly if an integer in it is too long. -/
theorem displayed_eq_error {v : Value} {f : Failure} :
    v.displayed = .error f ↔ v.hasLongInteger = true ∧ f = .longInteger := by
  have hsome := display?_isSome v
  unfold displayed
  -- of the four cases, `display?_isSome` rules out the two in which integers and text disagree
  cases hlong : v.hasLongInteger <;> cases hdisplay : v.display? <;>
    simp [hlong, hdisplay, eq_comm] at hsome ⊢

end Value

/-! ### Names with surrogates -/

/-- A surrogate has no other case. -/
theorem surrogate_mem_lowerFrom {n : Fin 2048} {points : List CodePoint}
    (before : List CodePoint) : .surrogate n ∈ lowerFrom before points ↔ .surrogate n ∈ points := by
  induction points generalizing before with
  | nil => rfl
  | cons p rest ih =>
    have hpoint : .surrogate n ∈ lowerPoint before rest p ↔ .surrogate n = p := by
      cases p with
      | surrogate m => exact List.mem_singleton
      | char c =>
        unfold lowerPoint
        dsimp only
        split
        · simp
        split
        · simp
        · simp
    rw [lowerFrom, List.mem_append, ih, hpoint, List.mem_cons]

/-- A text that is no string has a surrogate. -/
theorem Text.exists_surrogate {t : Text} (h : t.string? = none) :
    ∃ n, CodePoint.surrogate n ∈ t.points := by
  have hchars : ∀ points : List CodePoint, chars? points = none →
      ∃ n, CodePoint.surrogate n ∈ points := by
    intro points
    induction points with
    | nil => exact fun h => (by cases h)
    | cons p rest ih =>
      intro h
      cases p with
      | surrogate n => exact ⟨n, List.mem_cons_self⟩
      | char c =>
        cases hrest : chars? rest with
        | none =>
          obtain ⟨n, hn⟩ := ih hrest
          exact ⟨n, List.mem_cons_of_mem _ hn⟩
        | some s =>
          simp [chars?, hrest] at h
  exact hchars _ (Option.map_eq_none_iff.1 h)

/-- **No spelling of a string has a surrogate.** -/
theorem sameName_loose (name : String) (l : Loose) : sameName name l.text = false := by
  obtain ⟨n, hn⟩ := Text.exists_surrogate l.isLoose
  have hlower : CodePoint.surrogate n ∈ lowerPoints l.text.points :=
    (surrogate_mem_lowerFrom []).2 hn
  have hname : CodePoint.surrogate n ∉ lowerPoints (Text.ofString name).points := by
    intro h
    have hmem := (surrogate_mem_lowerFrom []).1 h
    simp at hmem
  unfold sameName
  rw [beq_eq_false_iff_ne]
  intro heq
  rw [heq] at hname
  exact hname hlower

end ServiceClient
