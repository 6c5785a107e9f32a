import Mathlib.Data.List.Dedup
import Mathlib.Data.List.Induction
import ServiceClient.Value

/-!
# Fields named by texts

Fields whose keys are texts are pairs of a name and a value. Writing such pairs one by one is
a rule on names alone.

* `Fields.lastWins`: each name at its first place, with its last value.
* `Fields.ofPairs_named`: what writing pairs one by one leads to.
* `Fields.get?_named`: a field is read by its name.
* `Fields.IsNamed`: fields under different names, and writing one of them.
-/

namespace ServiceClient.Fields

/-- Pairs of a name and a value, as fields. -/
def named (pairs : List (Text × Value)) : Fields := pairs.map fun p => (.ofText p.1, p.2)

/-- The fields of pairs in which names may repeat: each name at its first place, with its last
value. -/
def lastWins (pairs : List (Text × Value)) : Fields :=
  named ((pairs.reverse.map (·.1)).dedup.reverse.map fun name =>
    (name, (pairs.reverse.lookup name).getD .null))

/-- A field with the key of another one, and with a value in a relation to the other's. -/
def Related (R : Value → Value → Prop) (p q : Value × Value) : Prop := q.1 = p.1 ∧ R p.2 q.2

/-- Fields with the keys and the values of others are the others. -/
theorem eq_of_related {fields read : Fields} (h : List.Forall₂ (Related Eq) fields read) :
    read = fields := by
  induction h with
  | nil => rfl
  | cons hfield _ ih => rw [ih, Prod.ext hfield.1 hfield.2.symm]

@[simp] theorem named_nil : named [] = [] := rfl

@[simp] theorem named_cons (p : Text × Value) (pairs : List (Text × Value)) :
    named (p :: pairs) = (.ofText p.1, p.2) :: named pairs := rfl

@[simp] theorem named_append (a b : List (Text × Value)) : named (a ++ b) = named a ++ named b :=
  List.map_append

/-- What holds of every field holds of every pair of a name and a value. -/
theorem forall_mem_named {P : Value × Value → Prop} {pairs : List (Text × Value)} :
    (∀ p ∈ named pairs, P p) ↔ ∀ p ∈ pairs, P (.ofText p.1, p.2) := List.forall_mem_map

/-- Fields that stand one by one for themselves are these fields. -/
theorem eq_named {P : Value × Value → Value × Value → Prop} {pairs : List (Text × Value)}
    {read : Fields} (hP : ∀ p ∈ pairs, ∀ q, P (.ofText p.1, p.2) q → q = (.ofText p.1, p.2))
    (h : List.Forall₂ P (named pairs) read) : read = named pairs := by
  induction pairs generalizing read with
  | nil =>
    cases h
    rfl
  | cons p pairs ih =>
    rw [List.forall_mem_cons] at hP
    rw [named_cons] at h ⊢
    cases h with
    | cons hfirst hrest => rw [hP.1 _ hfirst, ih hP.2 hrest]

/-- A new name goes last. -/
theorem put_named_of_notMem {name : Text} (v : Value) {pairs : List (Text × Value)}
    (h : name ∉ pairs.map (·.1)) :
    put (.ofText name) v (named pairs) = named (pairs ++ [(name, v)]) := by
  induction pairs with
  | nil => rfl
  | cons p pairs ih =>
    rw [List.map_cons, List.mem_cons, not_or] at h
    have hp : (p.1 == name) = false := beq_false_of_ne (Ne.symm h.1)
    rw [named_cons, put, Value.sameKey_ofText, hp, ih h.2]
    rfl

/-- A name that is there keeps its place and gets the new value. -/
theorem put_named_of_mem {name : Text} (v : Value) (f : Text → Value) {names : List Text}
    (hd : names.Nodup) (h : name ∈ names) :
    put (.ofText name) v (named (names.map fun n => (n, f n))) =
      named (names.map fun n => (n, if n = name then v else f n)) := by
  induction names with
  | nil => simp at h
  | cons n names ih =>
    rw [List.nodup_cons] at hd
    rw [List.map_cons, List.map_cons, named_cons, named_cons, put, Value.sameKey_ofText]
    by_cases hn : n = name
    · -- the name does not come again
      have hrest : names.map (fun m => (m, if m = name then v else f m)) =
          names.map fun m => (m, f m) := by
        apply List.map_congr_left
        intro m hm
        rw [if_neg (fun he => hd.1 (by rw [hn, ← he]; exact hm))]
      subst hn
      rw [hrest]; simp
    · have hm : name ∈ names := (List.mem_cons.1 h).resolve_left (Ne.symm hn)
      rw [beq_false_of_ne hn, ih hd.2 hm]; simp [hn]

/-- The last pair is put to the fields of the others. -/
theorem ofPairs_concat (pairs : List (Text × Value)) (p : Text × Value) :
    ofPairs (named (pairs ++ [p])) = put (.ofText p.1) p.2 (ofPairs (named pairs)) := by
  rw [ofPairs, named_append, List.foldl_append]
  rfl

/-- **Fields written one by one**: each name keeps its first place and has its last value. -/
theorem ofPairs_named (pairs : List (Text × Value)) : ofPairs (named pairs) = lastWins pairs := by
  induction pairs using List.reverseRecOn with
  | nil => rfl
  | append_singleton pairs p ih =>
    obtain ⟨name, v⟩ := p
    rw [ofPairs_concat, ih]
    unfold lastWins
    rw [List.reverse_append, List.reverse_singleton, List.singleton_append, List.map_cons]
    set names := pairs.reverse.map (·.1)
    -- the values of the other names do not change
    have hval : ∀ n, (((name, v) :: pairs.reverse).lookup n).getD .null =
        if n = name then v else (pairs.reverse.lookup n).getD .null := by
      intro n
      rw [List.lookup_cons]
      by_cases hn : n = name
      · rw [if_pos hn, hn, beq_self_eq_true]; rfl
      · rw [if_neg hn, beq_false_of_ne hn]
    simp only [hval]
    by_cases hm : name ∈ names
    · rw [List.dedup_cons_of_mem hm]
      exact put_named_of_mem v _ (List.nodup_reverse.2 (List.nodup_dedup names))
        (List.mem_reverse.2 (List.mem_dedup.2 hm))
    · rw [List.dedup_cons_of_notMem hm, List.reverse_cons, List.map_append]
      rw [put_named_of_notMem v (by simpa using hm)]
      congr 2
      · apply List.map_congr_left
        intro n hn
        have : n ≠ name := fun he => hm (List.mem_dedup.1 (List.mem_reverse.1 (he ▸ hn)))
        rw [if_neg this]
      · simp

/-- What is left of pairs in which names may repeat: some of them, under different names. -/
theorem exists_named_ofPairs (pairs : List (Text × Value)) :
    ∃ kept, ofPairs (named pairs) = named kept ∧ (kept.map (·.1)).Nodup ∧ kept ⊆ pairs := by
  refine ⟨_, ofPairs_named pairs, ?_, ?_⟩
  · rw [List.map_map]
    show (List.map (fun name => name) _).Nodup
    rw [List.map_id']
    exact List.nodup_reverse.2 (List.nodup_dedup _)
  · rintro p hp
    obtain ⟨name, hname, rfl⟩ := List.mem_map.1 hp
    rw [List.mem_reverse, List.mem_dedup, List.mem_map] at hname
    obtain ⟨q, hq, rfl⟩ := hname
    have hsome : (pairs.reverse.lookup q.1).isSome = true :=
      List.lookup_isSome_iff.2 ⟨q, hq, beq_self_eq_true _⟩
    obtain ⟨v, hv⟩ := Option.isSome_iff_exists.1 hsome
    obtain ⟨before, after, hsplit, -⟩ := List.lookup_eq_some_iff.1 hv
    have hmem : (q.1, v) ∈ pairs.reverse := by simp [hsplit]
    rw [hv, Option.getD_some]
    exact List.mem_reverse.1 hmem

/-- Fields with different names stay as they are written. -/
theorem ofPairs_of_nodup {pairs : List (Text × Value)} (h : (pairs.map (·.1)).Nodup) :
    ofPairs (named pairs) = named pairs := by
  induction pairs using List.reverseRecOn with
  | nil => rfl
  | append_singleton pairs p ih =>
    rw [List.map_append, List.nodup_append] at h
    have hp : p.1 ∉ pairs.map (·.1) := fun hm => h.2.2 _ hm p.1 (by simp) rfl
    rw [ofPairs_concat, ih h.1, put_named_of_notMem p.2 hp]

/-- A field is read by its name. -/
theorem get?_named (name : Text) (pairs : List (Text × Value)) :
    get? (.ofText name) (named pairs) = pairs.lookup name := by
  induction pairs with
  | nil => rfl
  | cons p pairs ih =>
    obtain ⟨n, v⟩ := p
    rw [named_cons, get?, Value.sameKey_ofText, List.lookup_cons, ih]
    by_cases h : n = name
    · simp [h]
    · have hs : (name == n) = false := beq_false_of_ne (Ne.symm h)
      simp [h, hs]

/-- What holds of the keys and the values of pairs holds of the fields that they make. -/
theorem forall_put {P Q : Value → Prop} {key value : Value} (hk : P key) (hv : Q value)
    {fields : Fields} (h : ∀ p ∈ fields, P p.1 ∧ Q p.2) :
    ∀ p ∈ put key value fields, P p.1 ∧ Q p.2 := by
  induction fields with
  | nil =>
    intro p hp
    rw [List.mem_singleton.1 hp]
    exact ⟨hk, hv⟩
  | cons q rest ih =>
    rw [List.forall_mem_cons] at h
    rw [put]
    split
    · rw [List.forall_mem_cons]
      exact ⟨⟨h.1.1, hv⟩, h.2⟩
    · rw [List.forall_mem_cons]
      exact ⟨h.1, ih h.2⟩

theorem forall_ofPairs {P Q : Value → Prop} {pairs : List (Value × Value)}
    (h : ∀ p ∈ pairs, P p.1 ∧ Q p.2) : ∀ p ∈ ofPairs pairs, P p.1 ∧ Q p.2 := by
  have hfold : ∀ fields : Fields, (∀ p ∈ fields, P p.1 ∧ Q p.2) →
      ∀ p ∈ pairs.foldl (fun fields kv => put kv.1 kv.2 fields) fields, P p.1 ∧ Q p.2 := by
    induction pairs with
    | nil => exact fun fields hf => hf
    | cons p pairs ih =>
      rw [List.forall_mem_cons] at h
      exact fun fields hf => ih h.2 _ (forall_put h.1.1 h.1.2 hf)
  exact hfold [] (List.forall_mem_nil _)

/-- Fields under different names, which are strings. -/
def IsNamed (fields : Fields) : Prop :=
  ∃ pairs : List (Text × Value), fields = named pairs ∧ (pairs.map (·.1)).Nodup ∧
    ∀ p ∈ pairs, ∃ s : String, p.1 = s

theorem named_injective : Function.Injective named :=
  List.map_injective_iff.2 fun _ _ h =>
    Prod.ext (Value.ofText_injective (Prod.mk.inj h).1) (Prod.mk.inj h).2

theorem isNamed_nil : IsNamed [] := ⟨[], rfl, List.nodup_nil, List.forall_mem_nil _⟩

theorem IsNamed.put {fields : Fields} (h : IsNamed fields) (name : String) (v : Value) :
    IsNamed (put (.text name) v fields) := by
  obtain ⟨pairs, rfl, hd, hnames⟩ := h
  obtain ⟨kept, hkept, hdistinct, hsub⟩ := exists_named_ofPairs (pairs ++ [((name : Text), v)])
  rw [ofPairs_concat, ofPairs_of_nodup hd, Value.ofText_ofString] at hkept
  refine ⟨kept, hkept, hdistinct, fun p hp => ?_⟩
  rcases List.mem_append.1 (hsub hp) with hold | hnew
  · exact hnames p hold
  · exact ⟨name, by rw [List.mem_singleton.1 hnew]⟩

theorem get?_put_named (name other : Text) (v : Value) (pairs : List (Text × Value)) :
    get? (.ofText other) (put (.ofText name) v (named pairs)) =
      if name = other then some v else get? (.ofText other) (named pairs) := by
  induction pairs with
  | nil =>
    by_cases hname : name = other <;> simp [Fields.put, get?, hname]
  | cons p pairs ih =>
    rw [named_cons, Fields.put, Value.sameKey_ofText]
    by_cases hp : p.1 = name
    · rw [beq_iff_eq.2 hp, if_pos rfl, get?, get?, Value.sameKey_ofText, hp]
      by_cases hname : name = other <;> simp [hname]
    · rw [beq_false_of_ne hp, if_neg (by decide), get?, get?, Value.sameKey_ofText, ih]
      by_cases hother : p.1 = other
      · have hname : name ≠ other := fun h => hp (hother.trans h.symm)
        rw [beq_iff_eq.2 hother, if_pos rfl, if_neg hname, if_pos rfl]
      · rw [beq_false_of_ne hother]
        rfl

/-- A field that is written is read by its name, and all others as before. -/
theorem IsNamed.get?_put {fields : Fields} (h : IsNamed fields) (name other : String)
    (v : Value) : get? (.text other) (Fields.put (.text name) v fields) =
      if name = other then some v else get? (.text other) fields := by
  obtain ⟨pairs, rfl, -, -⟩ := h
  simpa using get?_put_named name other v pairs

end ServiceClient.Fields
