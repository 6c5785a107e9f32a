import ServiceClient.Proofs.Outcome
import ServiceClient.Proofs.Writing

/-!
# What accepted calls write

A document has one pending field name for all its levels. It waits until a value is written to
some object, whatever is opened and closed in between, and a later name takes its place. So calls
can be accepted that are not those of a tree. `settle` moves each name to the value that takes it
and leaves out the names that none takes.

* `perform_effect`, `run_settle`: calls and settled calls write the same.
* `closes_of_run`: accepted calls are settled to calls that close what is open.
* `accepted_calls`: a writer accepts calls exactly if they are settled to the calls of a tree, and
  the calls are those of a tree exactly if each name is taken at once.
-/

namespace ServiceClient

namespace Document

/-- The kinds of containers. -/
inductive Kind
  | object
  | array
deriving DecidableEq, Repr

def kindOf : Frame → Kind
  | .object _ => .object
  | .array _ => .array

namespace Call

/-- Whether a call writes no more than one token: a bracket, a name, null or a scalar. -/
def isPrimitive : Call → Bool
  | .value .null => true
  | .value v => v.isScalar
  | .fieldName name => name.text?.isSome
  | _ => true

theorem exists_text_of_isPrimitive {k : Value} (h : isPrimitive (.fieldName k)) :
    ∃ name, k = .ofText name := by
  obtain ⟨name, hname⟩ := Option.isSome_iff_exists.1 h
  exact ⟨name, Value.text?_eq_some.1 hname⟩

/-- Whether a call writes a value or begins one. -/
def takesName : Call → Bool
  | .value _ | .startObject | .startArray => true
  | _ => false

/-- Whether a value follows each field name. -/
def namesTaken : List Call → Bool
  | [] => true
  | .fieldName _ :: rest => rest.head?.any takesName && namesTaken rest
  | _ :: rest => namesTaken rest

end Call

/-- Where the next call stands: the open containers, the innermost first, and the pending
name. -/
structure Position where
  kinds : List Kind
  pending : Option Text
deriving DecidableEq, Repr

namespace Position

/-- Whether the next call stands in an object. -/
def inObject (p : Position) : Bool := p.kinds.head? = some .object

/-- The call for the name that a value takes here. -/
def nameCalls : Position → List Call
  | ⟨.object :: _, some name⟩ => [.fieldName (.ofText name)]
  | _ => []

/-- The name that waits behind a value. -/
def nameLeft : Position → Option Text
  | ⟨.object :: _, _⟩ => none
  | ⟨_, pending⟩ => pending

/-- A call as it takes effect: behind the name that it takes, and a name in an object not yet. -/
def effect (p : Position) : Call → List Call
  | .fieldName name => if p.inObject && name.text?.isSome then [] else [.fieldName name]
  | .endObject => [.endObject]
  | .endArray => [.endArray]
  | c => p.nameCalls ++ [c]

/-- The position behind a call. -/
def next (p : Position) : Call → Position
  | .fieldName name => if p.inObject && name.text?.isSome then ⟨p.kinds, name.text?⟩ else p
  | .endObject | .endArray => ⟨p.kinds.tail, p.pending⟩
  | .startObject => ⟨.object :: p.kinds, p.nameLeft⟩
  | .startArray => ⟨.array :: p.kinds, p.nameLeft⟩
  | .value _ => ⟨p.kinds, p.nameLeft⟩

/-- In an object, a name waits. -/
theorem effect_name {p : Position} (h : p.inObject) (name : Text) :
    p.effect (.fieldName (.ofText name)) = [] := by
  rw [effect, h, Value.text?_ofText]
  rfl

theorem next_name {p : Position} (h : p.inObject) (name : Text) :
    p.next (.fieldName (.ofText name)) = ⟨p.kinds, some name⟩ := by
  rw [next, h, Value.text?_ofText]
  rfl

/-- The calls as they take effect. -/
def settle : Position → List Call → List Call
  | _, [] => []
  | p, c :: rest => p.effect c ++ settle (p.next c) rest

/-- The position before the first call. -/
def start : Position := ⟨[], none⟩

end Position

/-- Whether a document stands at a position. -/
structure At (d : Document) (p : Position) : Prop where
  kinds : d.frames.map (kindOf ·.2) = p.kinds
  pending : d.pending = p.pending.map .ofText

/-- The document without its pending name. -/
def unnamed (d : Document) : Document := { d with pending := none }

variable {convert : Value → Value}

theorem start_empty : At empty Position.start := ⟨rfl, rfl⟩

theorem At.unnamed_of_none {d : Document} {p : Position} (h : d.At p) (hp : p.pending = none) :
    d.unnamed = d := by
  have hd : d.pending = none := by rw [h.pending, hp]; rfl
  unfold unnamed; rw [← hd]

/-- The innermost container is of the first kind. -/
theorem frames_of_kinds {d : Document} {k : Kind} {ks : List Kind}
    (h : d.frames.map (kindOf ·.2) = k :: ks) :
    ∃ n f rest, d.frames = (n, f) :: rest ∧ kindOf f = k ∧ rest.map (kindOf ·.2) = ks := by
  obtain ⟨⟨n, f⟩, rest, hfr, hf, hrest⟩ := List.map_eq_cons_iff.1 h
  exact ⟨n, f, rest, hfr, hf, hrest⟩

/-- The innermost container of a document is of the kind that its position says. -/
theorem At.frames_cons {d : Document} {p : Position} {k : Kind} {ks : List Kind} (h : d.At p)
    (hk : p.kinds = k :: ks) :
    ∃ n f rest, d.frames = (n, f) :: rest ∧ kindOf f = k ∧ rest.map (kindOf ·.2) = ks :=
  frames_of_kinds (h.kinds.trans hk)

theorem At.inObject_object {d : Document} {p : Position} (h : d.At p) {n : Option Value}
    {fields : Fields} {rest : List (Option Value × Frame)}
    (hfr : d.frames = (n, .object fields) :: rest) : p.inObject := by
  rw [Position.inObject, ← h.kinds, hfr]; rfl

theorem At.frames_nil {d : Document} {p : Position} (h : d.At p) (hk : p.kinds = []) :
    d.frames = [] := by
  have hkinds := h.kinds
  rw [hk] at hkinds
  exact List.map_eq_nil_iff.1 hkinds

variable (convert) in
/-- What it takes to write a value: an empty root, an open array, or an open object and a
name. -/
theorem At.place_cases {d : Document} {p : Position} (h : d.At p) :
    (∃ n e, d.place = .ok (n, e) ∧ e.pending = p.nameLeft.map .ofText ∧
      ∃ f, run convert p.nameCalls d.unnamed = .ok f ∧ f.place = .ok (n, e.unnamed)) ∨
    (∃ r s, d.place = .error r ∧ p.nameCalls = [] ∧ d.unnamed.place = .error s) := by
  obtain ⟨ks, pending⟩ := p
  match ks, pending with
  | [], pending =>
    have hfr := h.frames_nil rfl
    cases hr : d.root with
    | none =>
      refine .inl ⟨none, d, ?_, h.pending, d.unnamed, rfl, ?_⟩
      · unfold place; rw [hfr, hr]; rfl
      · unfold place unnamed; rw [hfr, hr]; rfl
    | some v =>
      refine .inr ⟨⟨.secondRoot, d⟩, ⟨.secondRoot, d.unnamed⟩, ?_, rfl, ?_⟩
      · unfold place; rw [hfr, hr]; rfl
      · unfold place unnamed; rw [hfr, hr]; rfl
  | .array :: ks, pending =>
    obtain ⟨n, f, rest, hfr, hf, -⟩ := h.frames_cons rfl
    cases f with
    | object fields => cases hf
    | array items =>
      exact .inl ⟨none, d, place_array hfr, h.pending, d.unnamed, rfl, place_array hfr⟩
  | .object :: ks, none =>
    obtain ⟨n, f, rest, hfr, hf, -⟩ := h.frames_cons rfl
    have hd := h.unnamed_of_none rfl
    cases f with
    | array items => cases hf
    | object fields =>
      have hpl : d.place = .error ⟨.missingName, d⟩ := by
        unfold place; simp only [hfr, h.pending, Option.map_none]
      exact .inr ⟨_, _, hpl, rfl, hd ▸ hpl⟩
  | .object :: ks, some name =>
    obtain ⟨n, f, rest, hfr, hf, -⟩ := h.frames_cons rfl
    cases f with
    | array items => cases hf
    | object fields =>
      -- the name is written again where the value takes it
      have hpend : d.pending = some (.ofText name) := h.pending
      have hd : { d.unnamed with pending := some (.ofText name) } = d := by
        unfold unnamed; rw [← hpend]
      have hpl : d.place = .ok (some (.ofText name), d.unnamed) := by
        have := place_object (d := d.unnamed) hfr name
        rwa [hd] at this
      refine .inl ⟨_, _, hpl, rfl, d, ?_, hpl⟩
      rw [Position.nameCalls, run_cons, perform, fieldName_object (d := d.unnamed) hfr, hd]; rfl

/-- What one call does to a document at a position and what its effect does to the document
without the pending name: both are accepted, or both are refused. -/
def Agrees (convert : Value → Value) (d : Document) (p : Position) (c : Call) : Prop :=
  (∃ e, d.perform convert c = .ok e ∧ e.At (p.next c) ∧
    run convert (p.effect c) d.unnamed = .ok e.unnamed) ∨
  (∃ r s, d.perform convert c = .error r ∧ run convert (p.effect c) d.unnamed = .error s)

/-- A call that places a value agrees with its effect if what it does to the document leaves
pending names alone. -/
theorem agrees_of_place {d : Document} {p : Position} {c : Call} (h : d.At p)
    (put : Option Value → Document → Document)
    (hput : ∀ d : Document, d.perform convert c = d.place >>= fun x => .ok (put x.1 x.2))
    (heffect : p.effect c = p.nameCalls ++ [c])
    (hunnamed : ∀ n e, (put n e).unnamed = put n e.unnamed)
    (hpending : ∀ n e, (put n e).pending = e.pending)
    (hkinds : ∀ n e, e.frames = d.frames →
      (put n e).frames.map (kindOf ·.2) = (p.next c).kinds)
    (hnext : (p.next c).pending = p.nameLeft) : Agrees convert d p c := by
  rcases h.place_cases convert with
    ⟨n, e, hpl, hpend, f, hrun, hpl'⟩ | ⟨r, s, hpl, hno, hpl'⟩
  · refine .inl ⟨put n e, by rw [hput, hpl]; rfl, ⟨hkinds n e (frames_of_place hpl), ?_⟩, ?_⟩
    · rw [hpending, hpend, hnext]
    · rw [heffect, run_append, hrun]
      show run convert [c] f = _
      rw [run_cons, hput, hpl', hunnamed]; rfl
  · refine .inr ⟨r, s, by rw [hput, hpl]; rfl, ?_⟩
    rw [heffect, hno, List.nil_append, run_cons, hput, hpl']; rfl

theorem unnamed_attach (n : Option Value) (v : Value) (e : Document) :
    (e.attach n v).unnamed = e.unnamed.attach n v := by
  unfold attach unnamed
  rcases e with ⟨root, _ | ⟨⟨o, _ | _⟩, rest⟩, pending⟩ <;> rfl

theorem pending_attach (n : Option Value) (v : Value) (e : Document) :
    (e.attach n v).pending = e.pending := by
  unfold attach
  split <;> rfl

/-- A value leaves the containers around it open. -/
theorem kinds_attach (n : Option Value) (v : Value) (e : Document) :
    (e.attach n v).frames.map (kindOf ·.2) = e.frames.map (kindOf ·.2) := by
  unfold attach
  rcases e with ⟨root, _ | ⟨⟨o, _ | _⟩, rest⟩, pending⟩ <;> rfl

variable (convert) in
/-- A value that one call writes is placed like any other. -/
theorem perform_value_eq {v : Value} (hv : Call.isPrimitive (.value v)) :
    ∃ w, (∀ d : Document,
        d.perform convert (.value v) = d.place >>= fun x => .ok (x.2.attach x.1 w)) ∧
      ∃ t : Tree, t.calls = [.value v] ∧ t.value convert = w := by
  by_cases hnull : v = .null
  · subst hnull
    exact ⟨.null, fun d => by rw [perform, write_null]; rfl, .null, rfl, rfl⟩
  · have hs : v.isScalar := by
      cases v <;> first | exact absurd rfl hnull | exact hv
    exact ⟨convert v, fun d => by rw [perform, write_scalar hs]; rfl, .scalar v hs, rfl, rfl⟩

variable (convert) in
/-- **A call and its effect agree**, whatever name is pending. -/
theorem perform_effect {d : Document} {p : Position} (h : d.At p) {c : Call}
    (hc : c.isPrimitive) : Agrees convert d p c := by
  have hkinds := h.kinds
  -- a call and its effect see the same containers, so both are accepted or neither is
  cases c with
  | value v =>
    obtain ⟨w, hw, -⟩ := perform_value_eq convert hc
    refine agrees_of_place h (fun n e => e.attach n w) hw rfl
      (fun n e => unnamed_attach n w e) (fun n e => pending_attach n w e) (fun n e he => ?_) rfl
    rw [kinds_attach, he]; exact hkinds
  | startObject =>
    refine agrees_of_place h (fun n e => { e with frames := (n, .object []) :: e.frames })
      (fun d => rfl) rfl (fun _ _ => rfl) (fun _ _ => rfl) (fun n e he => ?_) rfl
    rw [List.map_cons, he, hkinds]; rfl
  | startArray =>
    refine agrees_of_place h (fun n e => { e with frames := (n, .array []) :: e.frames })
      (fun d => rfl) rfl (fun _ _ => rfl) (fun _ _ => rfl) (fun n e he => ?_) rfl
    rw [List.map_cons, he, hkinds]; rfl
  | endObject =>
    match hfr : d.frames with
    | [] | (_, .array _) :: _ =>
      refine .inr ⟨⟨.endOfObject, d⟩, ⟨.endOfObject, d.unnamed⟩, ?_, ?_⟩
      · rw [perform, endObject, hfr]; rfl
      · rw [Position.effect, run_cons, perform, endObject, unnamed, hfr]; rfl
    | (n, .object fields) :: rest =>
      rw [hfr] at hkinds
      refine .inl ⟨_, by rw [perform, endObject, hfr], ⟨?_, ?_⟩, ?_⟩
      · rw [kinds_attach, Position.next, ← hkinds]; rfl
      · rw [pending_attach]; exact h.pending
      · rw [unnamed_attach, Position.effect, run_cons, perform, endObject, unnamed, hfr]; rfl
  | endArray =>
    match hfr : d.frames with
    | [] | (_, .object _) :: _ =>
      refine .inr ⟨⟨.endOfArray, d⟩, ⟨.endOfArray, d.unnamed⟩, ?_, ?_⟩
      · rw [perform, endArray, hfr]; rfl
      · rw [Position.effect, run_cons, perform, endArray, unnamed, hfr]; rfl
    | (n, .array items) :: rest =>
      rw [hfr] at hkinds
      refine .inl ⟨_, by rw [perform, endArray, hfr], ⟨?_, ?_⟩, ?_⟩
      · rw [kinds_attach, Position.next, ← hkinds]; rfl
      · rw [pending_attach]; exact h.pending
      · rw [unnamed_attach, Position.effect, run_cons, perform, endArray, unnamed, hfr]; rfl
  | fieldName name =>
    obtain ⟨name, rfl⟩ := Call.exists_text_of_isPrimitive hc
    match hfr : d.frames with
    | [] | (_, .array _) :: _ =>
      rw [hfr] at hkinds
      have hno : p.effect (.fieldName (.ofText name)) = [.fieldName (.ofText name)] := by
        rw [Position.effect, Position.inObject, ← hkinds]
        exact if_neg (fun h => by simp [kindOf] at h)
      have hrefuse : ∀ f : Document, f.frames = d.frames → ∃ r,
          f.perform convert (.fieldName (.ofText name)) = .error r := by
        intro f hf
        unfold perform fieldName
        rw [hf, hfr]
        exact ⟨_, rfl⟩
      obtain ⟨r, hr⟩ := hrefuse d rfl
      obtain ⟨s, hs⟩ := hrefuse d.unnamed rfl
      exact .inr ⟨r, s, hr, by rw [hno, run_cons, hs]; rfl⟩
    | (n, .object fields) :: rest =>
      have hin := h.inObject_object hfr
      refine .inl ⟨{ d with pending := some (.ofText name) }, fieldName_object hfr name, ?_, ?_⟩
      · rw [Position.next_name hin]; exact ⟨hkinds, rfl⟩
      · rw [Position.effect_name hin]; rfl

variable (convert) in
/-- **Calls and settled calls write the same**: both are accepted, or both are refused. -/
theorem run_settle {calls : List Call} (hc : calls.all Call.isPrimitive) {d : Document}
    {p : Position} (h : d.At p) :
    (∃ e, run convert calls d = .ok e ∧ run convert (p.settle calls) d.unnamed = .ok e.unnamed) ∨
    (∃ r s, run convert calls d = .error r ∧
      run convert (p.settle calls) d.unnamed = .error s) := by
  induction calls generalizing d p with
  | nil => exact .inl ⟨d, rfl, rfl⟩
  | cons c rest ih =>
    rw [List.all_cons, Bool.and_eq_true] at hc
    rw [run_cons, Position.settle, run_append]
    rcases perform_effect convert h hc.1 with ⟨e, he, hat, heff⟩ | ⟨r, s, hr, hs⟩
    · rw [he, heff]; exact ih hc.2 hat
    · rw [hr, hs]; exact .inr ⟨r, s, rfl, rfl⟩

/-- Calls that write the rest of each open container and close it, and nothing behind. -/
inductive Closes : List Kind → List Call → Prop
  | done : Closes [] []
  | array (items : List Tree) {ks : List Kind} {calls : List Call} (h : Closes ks calls) :
      Closes (.array :: ks) (Tree.itemCalls items ++ .endArray :: calls)
  | object (fields : List (Text × Tree)) {ks : List Kind} {calls : List Call}
      (h : Closes ks calls) :
      Closes (.object :: ks) (Tree.fieldCalls fields ++ .endObject :: calls)

/-- A tree may be written where a name for it waits, or none is needed. -/
theorem Closes.write {d e : Document} {p : Position} {n : Option Value} {calls : List Call}
    (h : Closes p.kinds calls) (hd : d.At p) (hpl : d.place = .ok (n, e))
    (hin : d.frames ≠ [] ∨ d.root.isSome) (t : Tree) :
    Closes p.kinds (p.nameCalls ++ (t.calls ++ calls)) := by
  obtain ⟨ks, pending⟩ := p
  match ks, pending with
  | [], _ =>
    -- there is a root already
    have hfr := hd.frames_nil rfl
    unfold place at hpl
    rw [hfr] at hpl
    rcases hin with hin | hin
    · exact absurd hfr hin
    · simp only [hin, if_pos] at hpl; cases hpl
  | .array :: ks, _ =>
    cases h with
    | array items h =>
      have hmore := Closes.array (t :: items) h
      rwa [Tree.itemCalls, List.append_assoc] at hmore
  | .object :: ks, none =>
    obtain ⟨o, f, rest, hfr, hf, -⟩ := hd.frames_cons rfl
    have hpend := hd.pending
    cases f with
    | array items => cases hf
    | object fields =>
      unfold place at hpl
      simp only [hfr, hpend, Option.map_none] at hpl
      cases hpl
  | .object :: ks, some name =>
    cases h with
    | object fields h =>
      have hmore := Closes.object ((name, t) :: fields) h
      rwa [Tree.fieldCalls, List.cons_append, List.append_assoc] at hmore

theorem endObject_eq_ok {d e : Document} (h : d.endObject = .ok e) :
    ∃ n fields rest, d.frames = (n, .object fields) :: rest ∧
      e = { d with frames := rest }.attach n (.map fields) := by
  unfold endObject at h
  split at h
  · rename_i n fields rest hfr
    cases h; exact ⟨n, fields, rest, hfr, rfl⟩
  · cases h

theorem endArray_eq_ok {d e : Document} (h : d.endArray = .ok e) :
    ∃ n items rest, d.frames = (n, .array items) :: rest ∧
      e = { d with frames := rest }.attach n (.list items) := by
  unfold endArray at h
  split at h
  · rename_i n items rest hfr
    cases h; exact ⟨n, items, rest, hfr, rfl⟩
  · cases h

theorem fieldName_eq_ok {d e : Document} {name : Text} (h : d.fieldName (.ofText name) = .ok e) :
    ∃ n fields rest, d.frames = (n, .object fields) :: rest ∧
      e = { d with pending := some (.ofText name) } := by
  have hopen := h
  unfold fieldName at hopen
  split at hopen
  · rename_i n fields rest hfr
    rw [fieldName_object hfr] at h
    exact ⟨n, fields, rest, hfr, (Except.ok.inj h).symm⟩
  · cases hopen

/-- Behind a value there is a root, or a container is open. -/
theorem inside_attach (n : Option Value) (v : Value) (e : Document) :
    (e.attach n v).frames ≠ [] ∨ (e.attach n v).root.isSome := by
  unfold attach
  rcases e with ⟨root, _ | ⟨⟨o, _ | _⟩, rest⟩, pending⟩
  · exact .inr rfl
  · exact .inl (List.cons_ne_nil _ _)
  · exact .inl (List.cons_ne_nil _ _)

/-- **Accepted calls close what is open.** Calls that are accepted and leave nothing open are
settled to calls that write the rest of each open container. -/
theorem closes_of_run {calls : List Call} (hc : calls.all Call.isPrimitive) {d e : Document}
    {p : Position} (h : d.At p) (hin : d.frames ≠ [] ∨ d.root.isSome)
    (hrun : run convert calls d = .ok e) (hend : e.frames = []) :
    Closes p.kinds (p.settle calls) := by
  -- on the calls: each leaves a document inside of something, which the others close
  induction calls generalizing d p with
  | nil =>
    cases hrun
    have hkinds := h.kinds
    rw [hend] at hkinds
    rw [← hkinds]; exact .done
  | cons c rest ih =>
    rw [List.all_cons, Bool.and_eq_true] at hc
    rw [run_cons] at hrun
    obtain ⟨d', hd', hrest⟩ := bind_eq_ok.1 hrun
    have hat : d'.At (p.next c) := by
      rcases perform_effect convert h hc.1 with ⟨_, he, hat, -⟩ | ⟨_, _, hr, -⟩
      · rw [hd'] at he; cases he; exact hat
      · rw [hd'] at hr; cases hr
    have ih := ih hc.2 hat
    rw [Position.settle]
    cases c with
    | value v =>
      obtain ⟨w, hw, t, ht, -⟩ := perform_value_eq convert hc.1
      rw [hw] at hd'
      obtain ⟨⟨n, e'⟩, hpl, he'⟩ := bind_eq_ok.1 hd'
      cases he'
      have hclose : Closes p.kinds _ := ih (inside_attach n w e') hrest
      have hwrite := hclose.write h hpl hin t
      rwa [ht, ← List.append_assoc] at hwrite
    | startObject =>
      obtain ⟨⟨n, e'⟩, hpl, he'⟩ := bind_eq_ok.1 hd'
      cases he'
      have hclose : Closes (.object :: p.kinds) _ := ih (.inl (List.cons_ne_nil _ _)) hrest
      generalize hS : Position.settle _ rest = S at hclose ⊢
      cases hclose with
      | object fields hcs =>
        have hwrite := hcs.write h hpl hin (.object fields)
        simpa [Tree.calls, Position.effect] using hwrite
    | startArray =>
      obtain ⟨⟨n, e'⟩, hpl, he'⟩ := bind_eq_ok.1 hd'
      cases he'
      have hclose : Closes (.array :: p.kinds) _ := ih (.inl (List.cons_ne_nil _ _)) hrest
      generalize hS : Position.settle _ rest = S at hclose ⊢
      cases hclose with
      | array items hcs =>
        have hwrite := hcs.write h hpl hin (.array items)
        simpa [Tree.calls, Position.effect] using hwrite
    | endObject =>
      obtain ⟨n, fields, below, hfr, he'⟩ := endObject_eq_ok hd'
      have hkinds := h.kinds
      rw [hfr] at hkinds
      have hclose : Closes p.kinds.tail _ := ih (he' ▸ inside_attach _ _ _) hrest
      rw [← hkinds] at hclose ⊢
      exact .object [] hclose
    | endArray =>
      obtain ⟨n, items, below, hfr, he'⟩ := endArray_eq_ok hd'
      have hkinds := h.kinds
      rw [hfr] at hkinds
      have hclose : Closes p.kinds.tail _ := ih (he' ▸ inside_attach _ _ _) hrest
      rw [← hkinds] at hclose ⊢
      exact .array [] hclose
    | fieldName name =>
      obtain ⟨name, rfl⟩ := Call.exists_text_of_isPrimitive hc.1
      obtain ⟨n, fields, below, hfr, he'⟩ := fieldName_eq_ok hd'
      have hobj := h.inObject_object hfr
      rw [Position.next_name hobj] at ih
      rw [Position.effect_name hobj, Position.next_name hobj]
      exact ih (.inl (by rw [he', hfr]; exact List.cons_ne_nil _ _)) hrest

/-- **Accepted calls are settled to the calls of a tree.** -/
theorem settle_of_run {calls : List Call} (hc : calls.all Call.isPrimitive) (hne : calls ≠ [])
    {e : Document} (hrun : run convert calls empty = .ok e) (hend : e.frames = []) :
    ∃ t : Tree, Position.start.settle calls = t.calls := by
  obtain ⟨c, rest, rfl⟩ := List.exists_cons_of_ne_nil hne
  rw [List.all_cons, Bool.and_eq_true] at hc
  rw [run_cons] at hrun
  obtain ⟨d', hd', hrest⟩ := bind_eq_ok.1 hrun
  rw [Position.settle]
  -- the first call is the root, or opens it; what follows closes it
  cases c with
  | value v =>
    obtain ⟨w, hw, t, ht, -⟩ := perform_value_eq convert hc.1
    rw [hw] at hd'
    cases hd'
    have hclose : Closes [] (Position.settle ⟨[], none⟩ rest) :=
      closes_of_run (p := ⟨[], none⟩) hc.2 ⟨rfl, rfl⟩ (.inr rfl) hrest hend
    refine ⟨t, ?_⟩
    rw [ht]
    show Call.value v :: Position.settle ⟨[], none⟩ rest = _
    generalize Position.settle ⟨[], none⟩ rest = S at hclose
    cases hclose; rfl
  | startObject =>
    cases hd'
    have hclose : Closes [.object] (Position.settle ⟨[.object], none⟩ rest) :=
      closes_of_run (p := ⟨[.object], none⟩) hc.2 ⟨rfl, rfl⟩ (.inl (List.cons_ne_nil _ _)) hrest
        hend
    show ∃ t : Tree, Call.startObject :: Position.settle ⟨[.object], none⟩ rest = t.calls
    generalize Position.settle ⟨[.object], none⟩ rest = S at hclose
    cases hclose with
    | object fields h => cases h; exact ⟨.object fields, rfl⟩
  | startArray =>
    cases hd'
    have hclose : Closes [.array] (Position.settle ⟨[.array], none⟩ rest) :=
      closes_of_run (p := ⟨[.array], none⟩) hc.2 ⟨rfl, rfl⟩ (.inl (List.cons_ne_nil _ _)) hrest hend
    show ∃ t : Tree, Call.startArray :: Position.settle ⟨[.array], none⟩ rest = t.calls
    generalize Position.settle ⟨[.array], none⟩ rest = S at hclose
    cases hclose with
    | array items h => cases h; exact ⟨.array items, rfl⟩
  | endObject => cases hd'
  | endArray => cases hd'
  | fieldName name =>
    obtain ⟨name, rfl⟩ := Call.exists_text_of_isPrimitive hc.1
    cases hd'

namespace Position

theorem name_of_none {p : Position} (h : p.pending = none) :
    p.nameCalls = [] ∧ p.nameLeft = none := by
  obtain ⟨_ | ⟨_ | _, _⟩, _ | _⟩ := p <;> first | exact ⟨rfl, rfl⟩ | cases h

/-- With no name pending, every call but a name takes effect at once. -/
theorem effect_of_none {p : Position} (hp : p.pending = none) {c : Call}
    (hc : ∀ name, c ≠ .fieldName (.ofText name)) :
    p.effect c = [c] ∧ (p.next c).pending = none := by
  obtain ⟨hno, hleft⟩ := name_of_none hp
  cases c with
  | fieldName name =>
    have hno : name.text?.isSome = false := by
      rw [← Bool.not_eq_true]
      intro hsome
      obtain ⟨t, ht⟩ := Call.exists_text_of_isPrimitive hsome
      exact hc t (congrArg Call.fieldName ht)
    rw [effect, next, hno, Bool.and_false]
    exact ⟨rfl, hp⟩
  | endObject | endArray => exact ⟨rfl, hp⟩
  | startObject | startArray | value =>
    refine ⟨?_, hleft⟩
    unfold effect; rw [hno]; rfl

/-- Where a value follows each name, the calls are settled already. A name that waits is written
in front of the first. -/
theorem settle_of_namesTaken (calls : List Call) (h : Call.namesTaken calls) :
    (∀ p : Position, p.pending = none → p.settle calls = calls) ∧
    ∀ (ks : List Kind) (name : Text), calls.head?.any Call.takesName →
      settle ⟨.object :: ks, some name⟩ calls = .fieldName (.ofText name) :: calls := by
  induction calls with
  | nil => exact ⟨fun _ _ => rfl, fun _ _ h => Bool.noConfusion h⟩
  | cons c rest ih =>
    have hrest : Call.namesTaken rest := by
      cases c <;> first | exact h | exact (Bool.and_eq_true _ _ ▸ h : _ ∧ _).2
    obtain ⟨ihNone, ihSome⟩ := ih hrest
    constructor
    · intro p hp
      by_cases hc : ∃ name, c = .fieldName (.ofText name)
      · -- in an object the name waits for the call behind it, elsewhere it stays
        obtain ⟨name, rfl⟩ := hc
        have hhead : rest.head?.any Call.takesName := by
          rw [Call.namesTaken, Bool.and_eq_true] at h; exact h.1
        by_cases hin : p.inObject
        · rw [settle, effect_name hin, next_name hin]
          obtain ⟨_ | ⟨_ | _, ks⟩, pending⟩ := p <;> first | exact ihSome ks name hhead | cases hin
        · rw [settle, effect, next, Bool.eq_false_iff.2 hin, Bool.false_and]
          exact congrArg _ (ihNone _ hp)
      · obtain ⟨heff, hnext⟩ := effect_of_none hp (fun name h => hc ⟨name, h⟩)
        rw [settle, heff, ihNone _ hnext]; rfl
    · intro ks name hhead
      cases c with
      | fieldName | endObject | endArray => exact Bool.noConfusion hhead
      | startObject | startArray | value =>
        rw [settle, ihNone _ rfl]; rfl

end Position

namespace Call

theorem takesName_calls (t : Tree) (calls : List Call) :
    (t.calls ++ calls).head?.any takesName := by
  cases t <;> rfl

mutual

/-- In the calls of a tree, a value follows each name. -/
theorem namesTaken_calls : ∀ (t : Tree) (calls : List Call),
    namesTaken (t.calls ++ calls) = namesTaken calls
  | .null, _ | .scalar .., _ => rfl
  | .array items, calls => by
    rw [Tree.calls, List.cons_append, List.append_assoc]
    exact namesTaken_itemCalls items (.endArray :: calls)
  | .object fields, calls => by
    rw [Tree.calls, List.cons_append, List.append_assoc]
    exact namesTaken_fieldCalls fields (.endObject :: calls)

theorem namesTaken_itemCalls : ∀ (items : List Tree) (calls : List Call),
    namesTaken (Tree.itemCalls items ++ calls) = namesTaken calls
  | [], _ => rfl
  | t :: items, calls => by
    rw [Tree.itemCalls, List.append_assoc, namesTaken_calls t]
    exact namesTaken_itemCalls items calls

theorem namesTaken_fieldCalls : ∀ (fields : List (Text × Tree)) (calls : List Call),
    namesTaken (Tree.fieldCalls fields ++ calls) = namesTaken calls
  | [], _ => rfl
  | (name, t) :: fields, calls => by
    rw [Tree.fieldCalls, List.cons_append, List.append_assoc, namesTaken, takesName_calls,
      Bool.true_and, namesTaken_calls t]
    exact namesTaken_fieldCalls fields calls

end

end Call

end Document

namespace BodyWriter

/-- Whether a new writer accepts calls and then gives a body. -/
def Writes (encoding : Encoding) (calls : List Document.Call) (body : Bytes) : Prop :=
  ∃ w, (new encoding).performAll calls = (.ok (), w) ∧ w.bytes = .ok body

open Document

theorem writes_iff {encoding : Encoding} {calls : List Call} {body : Bytes} :
    Writes encoding calls body ↔
      ∃ e, run encoding.convert calls empty = .ok e ∧
        (document encoding e).bytes = .ok body := by
  rw [Writes, new, performAll_document]
  cases hrun : run encoding.convert calls empty with
  | error r =>
    constructor
    · rintro ⟨_, h, -⟩
      cases h
    · rintro ⟨_, h, -⟩
      cases h
  | ok e =>
    constructor
    · rintro ⟨w, hw, hb⟩
      cases hw
      exact ⟨e, rfl, hb⟩
    · rintro ⟨e', he, hb⟩
      cases he
      exact ⟨_, rfl, hb⟩

/-- The body does not depend on a name that is still pending. -/
theorem bytes_of_unnamed {encoding : Encoding} {e : Document} {v : Value}
    (h : e.unnamed = empty.attach none v) : (document encoding e).bytes = encoding.encode v := by
  have hfr : e.frames = [] := congrArg Document.frames h
  have hroot : e.root = some v := congrArg Document.root h
  simp only [bytes, finished?, hfr, hroot]; rfl

theorem frames_of_bytes {encoding : Encoding} {e : Document} {body : Bytes}
    (h : (document encoding e).bytes = .ok body) : e.frames = [] := by
  cases hfr : e.frames with
  | nil => rfl
  | cons f rest => simp only [bytes, finished?, hfr] at h; cases h

/-- **Which calls a writer accepts.** Calls of one token each are accepted and give a body exactly
if, each name moved to the value that takes it, they are the calls of a tree; the body is its
document. So they are themselves the calls of a tree exactly if they are accepted and a value
follows each name. -/
theorem accepted_calls (encoding : Encoding) {calls : List Call}
    (hc : calls.all Call.isPrimitive) (body : Bytes) :
    (calls ≠ [] ∧ Writes encoding calls body ↔
      ∃ t : Tree, Position.start.settle calls = t.calls ∧
        encoding.encode (t.value encoding.convert) = .ok body) ∧
    ((∃ t : Tree, calls = t.calls ∧ encoding.encode (t.value encoding.convert) = .ok body) ↔
      calls ≠ [] ∧ Writes encoding calls body ∧ Call.namesTaken calls) := by
  have htree : ∀ t : Tree, run encoding.convert t.calls empty =
      .ok (empty.attach none (t.value encoding.convert)) := fun t => run_calls t rfl rfl
  have hagree := run_settle encoding.convert hc start_empty
  have hfirst : calls ≠ [] ∧ Writes encoding calls body ↔
      ∃ t : Tree, Position.start.settle calls = t.calls ∧
        encoding.encode (t.value encoding.convert) = .ok body := by
    rw [writes_iff]
    constructor
    · rintro ⟨hne, e, hrun, hb⟩
      obtain ⟨t, ht⟩ := settle_of_run hc hne hrun (frames_of_bytes hb)
      refine ⟨t, ht, ?_⟩
      -- the settled calls leave the document of the tree, which the body is read from
      rcases hagree with ⟨e', he', hsettled⟩ | ⟨r, _, hr, _⟩
      · rw [hrun] at he'
        cases he'
        rw [ht] at hsettled
        rw [← bytes_of_unnamed (Except.ok.inj (hsettled.symm.trans (htree t)))]; exact hb
      · rw [hrun] at hr; cases hr
    · rintro ⟨t, ht, henc⟩
      refine ⟨fun hnil => ?_, ?_⟩
      · rw [hnil] at ht
        cases t <;> cases ht
      · rcases hagree with ⟨e, he, hsettled⟩ | ⟨_, s, _, hs⟩
        · rw [ht] at hsettled
          have hun := Except.ok.inj (hsettled.symm.trans (htree t))
          exact ⟨e, he, (bytes_of_unnamed hun).trans henc⟩
        · rw [ht] at hs
          cases hs.symm.trans (htree t)
  refine ⟨hfirst, ?_⟩
  constructor
  · rintro ⟨t, rfl, henc⟩
    have htaken : Call.namesTaken t.calls := by
      have h := Call.namesTaken_calls t []
      rwa [List.append_nil] at h
    have hsettled := (Position.settle_of_namesTaken t.calls htaken).1 Position.start rfl
    obtain ⟨hne, hw⟩ := hfirst.2 ⟨t, hsettled, henc⟩
    exact ⟨hne, hw, htaken⟩
  · rintro ⟨hne, hw, htaken⟩
    obtain ⟨t, ht, henc⟩ := hfirst.1 ⟨hne, hw⟩
    rw [(Position.settle_of_namesTaken calls htaken).1 Position.start rfl] at ht
    exact ⟨t, ht, henc⟩

/-- An array of two objects, where the value of the second is named before the first is closed. -/
def namedTooEarly : List Call :=
  [.startArray, .startObject, .fieldName (.text "a"), .endObject, .startObject, .value (.int 1),
    .endObject, .endArray]

theorem writes_namedTooEarly :
    Writes .json namedTooEarly (Utf8.encode "[\x7b\x7d,\x7b\"a\":1\x7d]") :=
  writes_iff.2 ⟨_, rfl, rfl⟩

/-- The early name makes the calls those of a tree only once it is moved. -/
theorem accepted_calls_early :
    namedTooEarly.all Call.isPrimitive ∧
    (∃ t : Tree, Position.start.settle namedTooEarly = t.calls ∧
      Encoding.json.encode (t.value Encoding.json.convert) =
        .ok (Utf8.encode "[\x7b\x7d,\x7b\"a\":1\x7d]")) ∧
    ¬ ∃ t : Tree, namedTooEarly = t.calls ∧
      Encoding.json.encode (t.value Encoding.json.convert) =
        .ok (Utf8.encode "[\x7b\x7d,\x7b\"a\":1\x7d]") := by
  have hc : namedTooEarly.all Call.isPrimitive := by decide
  obtain ⟨haccepted, htree⟩ :=
    accepted_calls .json hc (Utf8.encode "[\x7b\x7d,\x7b\"a\":1\x7d]")
  refine ⟨hc, haccepted.1 ⟨by decide, writes_namedTooEarly⟩, fun h => ?_⟩
  exact absurd (htree.1 h).2.2 (by decide)

/-- Accepted calls are not always those of a tree. -/
theorem accepted_calls_no_tree :
    Writes .json namedTooEarly (Utf8.encode "[\x7b\x7d,\x7b\"a\":1\x7d]") ∧
    ¬ ∃ t : Tree, namedTooEarly = t.calls := by
  refine ⟨writes_namedTooEarly, ?_⟩
  rintro ⟨t, ht⟩
  have h := Call.namesTaken_calls t []
  rw [List.append_nil, ← ht] at h
  exact absurd h (by decide)

end BodyWriter

end ServiceClient
