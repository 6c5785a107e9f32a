import ServiceClient.BodyWriter
import ServiceClient.Proofs.Fields

/-!
# Documents as trees

What a series of calls writes, as a tree. `Tree.calls` are the calls that write a tree,
`Tree.value` is the document that they stand for.

* `run_calls`: where a value may be written, the calls of a tree write its document there.
* `depth_of_prefix`: until the last of these calls, a container is open.
-/

namespace ServiceClient

/-- A value that is written by one call: neither null nor a container that the writer opens. -/
def Value.isScalar : Value → Bool
  | .null | .list _ | .tuple _ | .map _ => false
  | _ => true

/-- A document to be written. The names of an object may repeat. -/
inductive Tree
  | null
  | scalar (v : Value) (h : v.isScalar)
  | array (items : List Tree)
  | object (fields : List (Text × Tree))

namespace Tree

mutual

/-- The calls that write a tree. -/
def calls : Tree → List Document.Call
  | null => [.value .null]
  | scalar v _ => [.value v]
  | array items => .startArray :: (itemCalls items ++ [.endArray])
  | object fields => .startObject :: (fieldCalls fields ++ [.endObject])

def itemCalls : List Tree → List Document.Call
  | [] => []
  | t :: rest => t.calls ++ itemCalls rest

def fieldCalls : List (Text × Tree) → List Document.Call
  | [] => []
  | (name, t) :: rest => .fieldName (.ofText name) :: (t.calls ++ fieldCalls rest)

end

mutual

/-- The document of a tree: scalars are converted, and a name that repeats keeps its first place
and has its last value. -/
def value (convert : Value → Value) : Tree → Value
  | null => .null
  | scalar v _ => convert v
  | array items => .list (itemValues convert items)
  | object fields => .map (Fields.lastWins (fieldValues convert fields))

def itemValues (convert : Value → Value) : List Tree → List Value
  | [] => []
  | t :: rest => t.value convert :: itemValues convert rest

def fieldValues (convert : Value → Value) : List (Text × Tree) → List (Text × Value)
  | [] => []
  | (name, t) :: rest => (name, t.value convert) :: fieldValues convert rest

end

end Tree

namespace Document

/-- Performs calls in order, up to the first that is refused. -/
def run (convert : Value → Value) : List Call → Document → Outcome
  | [], d => .ok d
  | c :: rest, d => d.perform convert c >>= run convert rest

variable {convert : Value → Value}

@[simp] theorem run_cons (c : Call) (rest : List Call) (d : Document) :
    run convert (c :: rest) d = d.perform convert c >>= run convert rest := rfl

theorem run_append (a b : List Call) (d : Document) :
    run convert (a ++ b) d = run convert a d >>= run convert b := by
  induction a generalizing d with
  | nil => rfl
  | cons c a ih =>
    rw [List.cons_append, run_cons, run_cons, bind_assoc]
    congr 1; funext e; exact ih e

/-- A scalar is written by one call. -/
theorem write_scalar {v : Value} (h : v.isScalar) (d : Document) :
    d.write convert v = d.add (convert v) := by
  cases v <;> simp_all [Value.isScalar, write]

theorem write_null (d : Document) : d.write convert .null = d.add .null := by
  unfold write; rfl

/-- A value is written where it may be placed. -/
theorem add_of_place {d e : Document} {name : Option Value} (h : d.place = .ok (name, e))
    (v : Value) : d.add v = .ok (e.attach name v) := by
  unfold add; rw [h]; rfl

/-- Placing a value takes at most the pending name away. -/
theorem frames_of_place {d e : Document} {name : Option Value} (h : d.place = .ok (name, e)) :
    e.frames = d.frames := by
  unfold place at h
  split at h
  · split at h
    · cases h
    · cases h; rfl
  · cases h; rfl
  · split at h
    · cases h
    · split at h <;> cases h
      rfl

/-- An item may always be written to an open array. -/
theorem place_array {d : Document} {n : Option Value} {items : List Value}
    {rest : List (Option Value × Frame)} (h : d.frames = (n, .array items) :: rest) :
    d.place = .ok (none, d) := by
  unfold place; rw [h]

/-- A value may be written to an open object once it is named. -/
theorem place_object {d : Document} {n : Option Value} {fields : Fields}
    {rest : List (Option Value × Frame)} (h : d.frames = (n, .object fields) :: rest)
    (name : Text) :
    place { d with pending := some (.ofText name) } =
      .ok (some (.ofText name), { d with pending := none }) := by
  unfold place; simp only [h, Value.changeable?_ofText]

theorem fieldName_object {d : Document} {n : Option Value} {fields : Fields}
    {rest : List (Option Value × Frame)} (h : d.frames = (n, .object fields) :: rest)
    (name : Text) :
    d.fieldName (.ofText name) = .ok { d with pending := some (.ofText name) } := by
  unfold fieldName
  rcases Value.ofText_cases name with ⟨s, -, hs⟩ | ⟨l, -, hl⟩
  · simp only [h, hs]
  · simp only [h, hl]

theorem startArray_of_place {d e : Document} {name : Option Value} (h : d.place = .ok (name, e)) :
    d.startArray = .ok { e with frames := (name, .array []) :: e.frames } := by
  unfold startArray; rw [h]; rfl

theorem startObject_of_place {d e : Document} {name : Option Value} (h : d.place = .ok (name, e)) :
    d.startObject = .ok { e with frames := (name, .object []) :: e.frames } := by
  unfold startObject; rw [h]; rfl

/-- An item goes to the end of the open array. -/
theorem attach_item {d : Document} {n : Option Value} {items : List Value}
    {rest : List (Option Value × Frame)} (h : d.frames = (n, .array items) :: rest)
    (name : Option Value) (v : Value) :
    d.attach name v = { d with frames := (n, .array (items ++ [v])) :: rest } := by
  unfold attach; rw [h]

/-- A named value goes into the open object, and takes its name with it. -/
theorem attach_field {d : Document} {n : Option Value} {fields : Fields}
    {rest : List (Option Value × Frame)} (h : d.frames = (n, .object fields) :: rest)
    (hp : d.pending = none) (name : Text) (v : Value) :
    attach (some (.ofText name)) v { d with pending := none } =
      { d with frames := (n, .object (Fields.put (.ofText name) v fields)) :: rest } := by
  unfold attach; simp only [h, hp, Option.getD_some]

theorem depth_attach (name : Option Value) (v : Value) (d : Document) :
    (d.attach name v).depth = d.depth := by
  unfold attach depth
  split <;> simp_all

mutual

/-- **The calls of a tree write its document** where a value may be written. -/
theorem run_calls : ∀ (t : Tree) {d e : Document} {name : Option Value},
    d.place = .ok (name, e) → e.pending = none →
      run convert t.calls d = .ok (e.attach name (t.value convert))
  | .null, d, e, name, h, _ => by
    rw [Tree.calls, run_cons, perform, write_null, add_of_place h]; rfl
  | .scalar v hv, d, e, name, h, _ => by
    rw [Tree.calls, run_cons, perform, write_scalar hv, add_of_place h]; rfl
  | .array items, d, e, name, h, hp => by
    -- the array is on top of the stack until its last call attaches it to what was there before
    have hi := run_itemCalls items (d := { e with frames := (name, .array []) :: e.frames }) rfl hp
    rw [Tree.calls, run_cons, perform, startArray_of_place h, Tree.value,
      ← List.nil_append (Tree.itemValues convert items)]
    show run convert (Tree.itemCalls items ++ [.endArray]) _ = _
    rw [run_append, hi]; rfl
  | .object fields, d, e, name, h, hp => by
    have hf := run_fieldCalls fields
      (d := { e with frames := (name, .object []) :: e.frames }) rfl hp
    rw [Tree.calls, run_cons, perform, startObject_of_place h, Tree.value, ← Fields.ofPairs_named]
    show run convert (Tree.fieldCalls fields ++ [.endObject]) _ = _
    rw [run_append, hf]; rfl

/-- Items go to the end of the open array. -/
theorem run_itemCalls : ∀ (items : List Tree) {d : Document} {n : Option Value} {xs : List Value}
    {rest : List (Option Value × Frame)},
    d.frames = (n, .array xs) :: rest → d.pending = none →
      run convert (Tree.itemCalls items) d =
        .ok { d with frames := (n, .array (xs ++ Tree.itemValues convert items)) :: rest }
  | [], d, n, xs, rest, h, _ => by
    rw [Tree.itemCalls, Tree.itemValues, List.append_nil, ← h]; rfl
  | t :: items, d, n, xs, rest, h, hp => by
    have ht := run_calls t (place_array h) hp
    have hi := run_itemCalls items
      (d := { d with frames := (n, .array (xs ++ [t.value convert])) :: rest }) rfl hp
    rw [Tree.itemCalls, run_append, ht, attach_item h]
    show run convert (Tree.itemCalls items) _ = _
    rw [hi, Tree.itemValues, List.append_assoc]; rfl

/-- Fields go to the open object one by one. -/
theorem run_fieldCalls : ∀ (fields : List (Text × Tree)) {d : Document} {n : Option Value}
    {fs : Fields} {rest : List (Option Value × Frame)},
    d.frames = (n, .object fs) :: rest → d.pending = none →
      run convert (Tree.fieldCalls fields) d =
        .ok { d with frames := (n, .object ((Fields.named (Tree.fieldValues convert fields)).foldl
          (fun fields kv => Fields.put kv.1 kv.2 fields) fs)) :: rest }
  | [], d, n, fs, rest, h, _ => by
    rw [Tree.fieldCalls, Tree.fieldValues, Fields.named_nil, List.foldl_nil, ← h]; rfl
  | (name, t) :: fields, d, n, fs, rest, h, hp => by
    have ht := run_calls t (place_object h name) rfl
    have hf := run_fieldCalls fields
      (d := { d with frames :=
        (n, .object (Fields.put (.ofText name) (t.value convert) fs)) :: rest }) rfl hp
    rw [Tree.fieldCalls, run_cons, perform, fieldName_object h]
    show run convert (t.calls ++ Tree.fieldCalls fields) _ = _
    rw [run_append, ht, attach_field h hp]
    show run convert (Tree.fieldCalls fields) _ = _
    rw [hf, Tree.fieldValues]; rfl

end

/-- A prefix of a single call is empty or all of it. -/
theorem prefix_single {α : Type} {a : α} {p : List α} (h : p <+: [a]) : p = [] ∨ p = [a] := by
  obtain rfl | ⟨q, rfl, hq⟩ := List.prefix_cons_iff.1 h
  · exact .inl rfl
  · rw [List.prefix_nil.1 hq]
    exact .inr rfl

/-- A prefix of two lists in a row ends in the first or reaches into the second. -/
theorem prefix_append_cases {α : Type} {p a b : List α} (h : p <+: a ++ b) :
    p <+: a ∨ ∃ q, p = a ++ q ∧ q <+: b := by
  obtain ⟨s, hs⟩ := h
  rcases List.append_eq_append_iff.1 hs with ⟨t, ha, -⟩ | ⟨t, hp, hb⟩
  · exact .inl ⟨t, ha.symm⟩
  · exact .inr ⟨t, hp, s, hb.symm⟩

mutual

/-- **A container is open until the last call of a tree**: after some but not all of the calls
the document is deeper than before. -/
theorem depth_of_prefix : ∀ (t : Tree) {d e : Document} {name : Option Value} {p : List Call},
    d.place = .ok (name, e) → e.pending = none → p <+: t.calls → p ≠ [] → p ≠ t.calls →
      ∃ f, run convert p d = .ok f ∧ d.depth < f.depth
  | .null, d, e, name, p, _, _, hpre, hne, hall => by
    rw [Tree.calls] at hpre hall
    rcases prefix_single hpre with hp | hp
    · exact absurd hp hne
    · exact absurd hp hall
  | .scalar v hv, d, e, name, p, _, _, hpre, hne, hall => by
    rw [Tree.calls] at hpre hall
    rcases prefix_single hpre with hp | hp
    · exact absurd hp hne
    · exact absurd hp hall
  | .array items, d, e, name, p, h, hp, hpre, hne, hall => by
    rw [Tree.calls, List.prefix_cons_iff] at hpre
    obtain rfl | ⟨q, rfl, hq⟩ := hpre
    · exact absurd rfl hne
    -- without the call that ends the array, it is still open
    have hq' : q <+: Tree.itemCalls items := by
      rcases List.prefix_concat_iff.1 hq with rfl | hq
      · rw [Tree.calls] at hall; exact absurd rfl hall
      · exact hq
    obtain ⟨f, hf, hdep⟩ := depth_of_prefix_items items
      (d := { e with frames := (name, .array []) :: e.frames }) rfl hp hq'
    refine ⟨f, by rw [run_cons, perform, startArray_of_place h]; exact hf, ?_⟩
    refine Nat.lt_of_lt_of_le ?_ hdep
    show d.frames.length < (e.frames).length + 1
    rw [frames_of_place h]; omega
  | .object fields, d, e, name, p, h, hp, hpre, hne, hall => by
    rw [Tree.calls, List.prefix_cons_iff] at hpre
    obtain rfl | ⟨q, rfl, hq⟩ := hpre
    · exact absurd rfl hne
    have hq' : q <+: Tree.fieldCalls fields := by
      rcases List.prefix_concat_iff.1 hq with rfl | hq
      · rw [Tree.calls] at hall; exact absurd rfl hall
      · exact hq
    obtain ⟨f, hf, hdep⟩ := depth_of_prefix_fields fields
      (d := { e with frames := (name, .object []) :: e.frames }) rfl hp hq'
    refine ⟨f, by rw [run_cons, perform, startObject_of_place h]; exact hf, ?_⟩
    refine Nat.lt_of_lt_of_le ?_ hdep
    show d.frames.length < (e.frames).length + 1
    rw [frames_of_place h]; omega

/-- An open array stays open while its items are written. -/
theorem depth_of_prefix_items : ∀ (items : List Tree) {d : Document} {n : Option Value}
    {xs : List Value} {rest : List (Option Value × Frame)} {p : List Call},
    d.frames = (n, .array xs) :: rest → d.pending = none → p <+: Tree.itemCalls items →
      ∃ f, run convert p d = .ok f ∧ d.depth ≤ f.depth
  | [], d, n, xs, rest, p, _, _, hpre => by
    rw [Tree.itemCalls, List.prefix_nil] at hpre
    exact ⟨d, by rw [hpre]; rfl, Nat.le_refl _⟩
  | t :: items, d, n, xs, rest, p, h, hp, hpre => by
    have hpl := place_array h
    rw [Tree.itemCalls] at hpre
    -- the prefix ends before, with, or behind the first item
    rcases prefix_append_cases hpre with hpre | ⟨q, rfl, hq⟩
    · by_cases hne : p = []
      · exact ⟨d, by rw [hne]; rfl, Nat.le_refl _⟩
      by_cases hall : p = t.calls
      · exact ⟨_, by rw [hall]; exact run_calls t hpl hp, Nat.le_of_eq (depth_attach ..).symm⟩
      · obtain ⟨f, hf, hdep⟩ := depth_of_prefix t hpl hp hpre hne hall
        exact ⟨f, hf, Nat.le_of_lt hdep⟩
    · obtain ⟨f, hf, hdep⟩ := depth_of_prefix_items items
        (d := { d with frames := (n, .array (xs ++ [t.value convert])) :: rest }) rfl hp hq
      refine ⟨f, by rw [run_append, run_calls t hpl hp, attach_item h]; exact hf, ?_⟩
      rw [depth, h]; exact hdep

/-- An open object stays open while its fields are written. -/
theorem depth_of_prefix_fields : ∀ (fields : List (Text × Tree)) {d : Document}
    {n : Option Value} {fs : Fields} {rest : List (Option Value × Frame)} {p : List Call},
    d.frames = (n, .object fs) :: rest → d.pending = none → p <+: Tree.fieldCalls fields →
      ∃ f, run convert p d = .ok f ∧ d.depth ≤ f.depth
  | [], d, n, fs, rest, p, _, _, hpre => by
    rw [Tree.fieldCalls, List.prefix_nil] at hpre
    exact ⟨d, by rw [hpre]; rfl, Nat.le_refl _⟩
  | (name, t) :: fields, d, n, fs, rest, p, h, hp, hpre => by
    have hname := fieldName_object h name
    have hpl := place_object h name
    rw [Tree.fieldCalls, List.prefix_cons_iff] at hpre
    obtain rfl | ⟨p, rfl, hpre⟩ := hpre
    · exact ⟨d, rfl, Nat.le_refl _⟩
    have hrun : run convert (.fieldName (.ofText name) :: p) d =
        run convert p { d with pending := some (.ofText name) } := by
      rw [run_cons, perform, hname]; rfl
    rw [hrun]
    rcases prefix_append_cases hpre with hpre | ⟨q, rfl, hq⟩
    · by_cases hne : p = []
      · exact ⟨{ d with pending := some (.ofText name) }, by rw [hne]; rfl, Nat.le_refl _⟩
      by_cases hall : p = t.calls
      · refine ⟨_, by rw [hall]; exact run_calls t hpl rfl, ?_⟩
        rw [depth_attach]; exact Nat.le_refl _
      · obtain ⟨f, hf, hdep⟩ := depth_of_prefix t hpl rfl hpre hne hall
        exact ⟨f, hf, Nat.le_of_lt hdep⟩
    · obtain ⟨f, hf, hdep⟩ := depth_of_prefix_fields fields
        (d := { d with frames :=
          (n, .object (Fields.put (.ofText name) (t.value convert) fs)) :: rest }) rfl hp hq
      refine ⟨f, by rw [run_append, run_calls t hpl rfl, attach_field h hp]; exact hf, ?_⟩
      rw [depth, h]; exact hdep

end

end Document

end ServiceClient
