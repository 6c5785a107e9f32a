import ServiceClient.Proofs.Tree

/-!
# Writing a document call by call

* `Tree.ofValue`: the normal form of a nested value, without null fields.
* `write_eq_run`: a nested value is written by the calls of its normal form.
* `calls_build_tree`: a writer of any encoding holds the tree that was written, and no body
  before its last call.
-/

namespace ServiceClient

mutual

/-- Whether all keys of the maps in a value are texts. -/
def Value.hasTextKeys : Value → Bool
  | .list items | .tuple items => itemsHaveTextKeys items
  | .map fields => fieldsHaveTextKeys fields
  | _ => true

def Value.itemsHaveTextKeys : List Value → Bool
  | [] => true
  | v :: rest => v.hasTextKeys && itemsHaveTextKeys rest

def Value.fieldsHaveTextKeys : List (Value × Value) → Bool
  | [] => true
  | (k, v) :: rest => k.text?.isSome && v.hasTextKeys && fieldsHaveTextKeys rest

end

namespace Tree

mutual

/-- The normal form of a nested value: lists and tuples are arrays, maps with texts as keys are
objects. A field that is null is left out, an item that is null stays. -/
def ofValue : Value → Tree
  | .null => .null
  | .list items | .tuple items => .array (ofItems items)
  | .map fields => .object (ofFields fields)
  | v => if h : v.isScalar then .scalar v h else .null

def ofItems : List Value → List Tree
  | [] => []
  | v :: rest => ofValue v :: ofItems rest

def ofFields : List (Value × Value) → List (Text × Tree)
  | [] => []
  | (_, .null) :: rest => ofFields rest
  | (k, v) :: rest =>
    match k.text? with
    | some name => (name, ofValue v) :: ofFields rest
    | none => ofFields rest

end

/-- A scalar is its own normal form. -/
theorem ofValue_scalar {v : Value} (h : v.isScalar) : ofValue v = .scalar v h := by
  cases v <;> first | rfl | exact Bool.noConfusion h

theorem ofFields_null (k : Value) (rest : List (Value × Value)) :
    ofFields ((k, .null) :: rest) = ofFields rest := by
  cases k <;> rfl

theorem ofFields_text {v : Value} (hv : v ≠ .null) (name : Text) (rest : List (Value × Value)) :
    ofFields ((.ofText name, v) :: rest) = (name, ofValue v) :: ofFields rest := by
  cases v <;> simp_all [ofFields]

end Tree

namespace Document

variable {convert : Value → Value}

theorem writeFields_null (k : Value) (rest : List (Value × Value)) (d : Document) :
    writeFields convert ((k, .null) :: rest) d = writeFields convert rest d := by
  rw [writeFields]

theorem writeFields_cons {v : Value} (hv : v ≠ .null) (k : Value) (rest : List (Value × Value))
    (d : Document) :
    writeFields convert ((k, v) :: rest) d =
      d.fieldName k >>= fun d => write convert v d >>= writeFields convert rest := by
  cases v <;> first | exact absurd rfl hv | rfl

theorem write_eq_run_scalar {v : Value} (h : v.isScalar) (d : Document) :
    write convert v d = run convert (Tree.ofValue v).calls d := by
  rw [Tree.ofValue_scalar h, Tree.calls, run_cons, perform]; exact (bind_pure _).symm

mutual

/-- **A nested value is written by the calls of its normal form**, in any state: both end in one
state, or are refused for one reason. -/
theorem write_eq_run : ∀ (v : Value) (d : Document), v.hasTextKeys →
    write convert v d = run convert (Tree.ofValue v).calls d
  | .map fields, d, h => by
    rw [Value.hasTextKeys] at h
    rw [write, Tree.ofValue, Tree.calls, run_cons, perform]
    congr 1; funext e
    rw [run_append, writeFields_eq_run fields e h]
    congr 1; funext f
    rw [run_cons, perform]; exact (bind_pure _).symm
  | .list items, d, h => by
    rw [Value.hasTextKeys] at h
    rw [write, Tree.ofValue, Tree.calls, run_cons, perform]
    congr 1; funext e
    rw [run_append, writeItems_eq_run items e h]
    congr 1; funext f
    rw [run_cons, perform]; exact (bind_pure _).symm
  | .tuple items, d, h => by
    rw [Value.hasTextKeys] at h
    rw [write, Tree.ofValue, Tree.calls, run_cons, perform]
    congr 1; funext e
    rw [run_append, writeItems_eq_run items e h]
    congr 1; funext f
    rw [run_cons, perform]; exact (bind_pure _).symm
  | .null, d, _ => by
    rw [Tree.ofValue, Tree.calls, run_cons, perform]; exact (bind_pure _).symm
  | .bool _, d, _ | .int _, d, _ | .double _, d, _ | .decimal _, d, _ | .text _, d, _
  | .bytes .., d, _ | .timestamp _, d, _ | .set _, d, _ | .symbol _, d, _ | .tagged .., d, _
  | .simple _, d, _ | .loose _, d, _ | .undefined, d, _ => write_eq_run_scalar rfl d

theorem writeItems_eq_run : ∀ (items : List Value) (d : Document), Value.itemsHaveTextKeys items →
    writeItems convert items d = run convert (Tree.itemCalls (Tree.ofItems items)) d
  | [], d, _ => rfl
  | v :: rest, d, h => by
    rw [Value.itemsHaveTextKeys, Bool.and_eq_true] at h
    rw [writeItems, Tree.ofItems, Tree.itemCalls, run_append, write_eq_run v d h.1]
    congr 1; funext e
    exact writeItems_eq_run rest e h.2

theorem writeFields_eq_run : ∀ (fields : List (Value × Value)) (d : Document),
    Value.fieldsHaveTextKeys fields →
      writeFields convert fields d = run convert (Tree.fieldCalls (Tree.ofFields fields)) d
  | [], d, _ => rfl
  | (k, v) :: rest, d, h => by
    rw [Value.fieldsHaveTextKeys, Bool.and_eq_true, Bool.and_eq_true] at h
    obtain ⟨⟨hk, hvalue⟩, hrest⟩ := h
    obtain ⟨name, hname⟩ := Option.isSome_iff_exists.1 hk
    obtain rfl := Value.text?_eq_some.1 hname
    by_cases hv : v = .null
    · subst hv
      rw [writeFields_null, Tree.ofFields_null]
      exact writeFields_eq_run rest d hrest
    · rw [writeFields_cons hv, Tree.ofFields_text hv, Tree.fieldCalls, run_cons, perform]
      congr 1; funext e
      rw [run_append, write_eq_run v e hvalue]
      congr 1; funext f
      exact writeFields_eq_run rest f hrest

end

end Document

namespace BodyWriter

/-- Performs calls in order, up to the first that is refused. -/
def performAll : List Document.Call → BodyWriter → Except Failure Unit × BodyWriter
  | [], w => (.ok (), w)
  | c :: rest, w =>
    match w.perform c with
    | (.ok (), w) => performAll rest w
    | (.error f, w) => (.error f, w)

/-- A writer in an encoding runs its document. -/
theorem performAll_document (encoding : Encoding) (calls : List Document.Call) (d : Document) :
    performAll calls (.document encoding d) =
      match d.run encoding.convert calls with
      | .ok e => (.ok (), .document encoding e)
      | .error r => (.error (.misuse r.cause), .document encoding r.state) := by
  induction calls generalizing d with
  | nil => rfl
  | cons c rest ih =>
    rw [performAll, perform, Document.run_cons]
    cases d.perform encoding.convert c with
    | ok e => exact ih e
    | error r => rfl

/-- The writer that ignores all calls stays as it is. -/
theorem performAll_silent (calls : List Document.Call) :
    performAll calls silent = (.ok (), silent) := by
  induction calls with
  | nil => rfl
  | cons c rest ih => rw [performAll, perform]; exact ih

/-- A nested value is written by the calls of its normal form. -/
theorem perform_value {v : Value} (h : v.hasTextKeys) (w : BodyWriter) :
    w.perform (.value v) = w.performAll (Tree.ofValue v).calls := by
  cases w with
  | silent => exact (performAll_silent _).symm
  | document encoding d =>
    have hall := performAll_document encoding (Tree.ofValue v).calls d
    rw [← Document.write_eq_run v d h] at hall
    exact hall.symm

/-- **A writer holds the tree that was written.** The calls of a tree are all accepted; after
some but not all of them there is no body, and after the last the body is the document of the
tree in the encoding. In any state, a nested value is written by the calls of its normal
form. -/
theorem calls_build_tree (encoding : Encoding) :
    (∀ t : Tree,
      (∃ w, (BodyWriter.new encoding).performAll t.calls = (.ok (), w) ∧
        w.bytes = encoding.encode (t.value encoding.convert)) ∧
      ∀ p, p <+: t.calls → p ≠ [] → p ≠ t.calls →
        ∃ w, (BodyWriter.new encoding).performAll p = (.ok (), w) ∧
          w.bytes = .error (.misuse .incomplete)) ∧
    ∀ (v : Value) (w : BodyWriter), v.hasTextKeys →
      w.perform (.value v) = w.performAll (Tree.ofValue v).calls := by
  have hplace : Document.empty.place = .ok (none, Document.empty) := rfl
  refine ⟨fun t => ⟨?_, ?_⟩, fun v w h => perform_value h w⟩
  · have hrun : Document.run encoding.convert t.calls Document.empty = .ok _ :=
      Document.run_calls t hplace rfl
    refine ⟨.document encoding (Document.empty.attach none (t.value encoding.convert)), ?_, rfl⟩
    rw [new, performAll_document, hrun]
  · intro p hpre hne hall
    obtain ⟨f, hf, hdep⟩ : ∃ f, Document.run encoding.convert p Document.empty = .ok f ∧
        Document.empty.depth < f.depth := Document.depth_of_prefix t hplace rfl hpre hne hall
    refine ⟨.document encoding f, by rw [new, performAll_document, hf], ?_⟩
    -- an open container keeps the document from being finished
    have hopen : f.frames.isEmpty = false := by
      cases hfr : f.frames with
      | nil => rw [Document.depth, Document.depth, hfr] at hdep; exact absurd hdep (by decide)
      | cons => rfl
    simp only [bytes, Document.finished?, hopen]; rfl

/-- Half an object has no body; a map without its null field is the calls that write it. -/
theorem calls_build_tree_nested :
    (∃ w, (BodyWriter.new .json).performAll [.startObject, .fieldName (.text "a")] = (.ok (), w) ∧
      w.bytes = .error (.misuse .incomplete)) ∧
    ∀ w : BodyWriter,
      w.perform (.value (.map [(.text "a", .null), (.text "b", .tuple [.null, .int 1])])) =
        w.performAll [.startObject, .fieldName (.text "b"), .startArray, .value .null,
          .value (.int 1), .endArray, .endObject] :=
  ⟨((calls_build_tree .json).1 (.object [("a", .null), ("a", .array [])])).2 _
      ⟨[.value .null, .fieldName (.text "a"), .startArray, .endArray, .endObject], rfl⟩
      (by simp) (fun h => by simpa [Tree.calls, Tree.fieldCalls] using congrArg List.length h),
    fun w => (calls_build_tree .json).2 _ w rfl⟩

end BodyWriter

end ServiceClient
