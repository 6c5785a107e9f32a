import Mathlib.Data.List.Induction
import ServiceClient.Profiles
import ServiceClient.Proofs.Outcome
import ServiceClient.Proofs.UrlReading

/-!
# What a profile file means

A profile file is a series of blocks, each a header with properties below it, with blank lines and
comments anywhere in between. While it is read, the properties of a header are those of its last
block.

* `ProfileLine.Spells`, `ofText_of_spells`: what a line says.
* `ProfileBlock.fault`, `ProfileSections.result_addLine`: what is wrong with a line behind blocks,
  or what it adds to them.
* `ProfileBlock.fit_blocks`, `readFrom_blocks`: blocks are read if none sets a property twice.
* `Profiles.find?_ofBlocks`: the properties of a name.
* `Profiles.ofLines_blocks`: the meaning of a file, and its faults.
-/

namespace ServiceClient

namespace ProfileLine

/-- A line that is neither skipped nor taken for a header. -/
def IsText (s : List Char) : Prop :=
  s ≠ [] ∧ s.head? ≠ some '#' ∧ s.head? ≠ some '[' ∧ s.getLast? ≠ some ']'

instance (s : List Char) : Decidable (IsText s) :=
  inferInstanceAs (Decidable (_ ∧ _ ∧ _ ∧ _))

/-- Whether a line, without the blanks around it, is spelled with these characters. -/
def Spells : ProfileLine → List Char → Prop
  | .empty, s => s = [] ∨ s.head? = some '#'
  | .header ⟨name, false⟩, s => name ≠ "" ∧ ¬ profileWord <+: name.toList ∧
      ∃ inner, s = '[' :: (inner ++ [']']) ∧ trimChars inner = name.toList
  | .header ⟨name, true⟩, s => name ≠ "" ∧
      ∃ inner rest, s = '[' :: (inner ++ [']']) ∧ trimChars inner = profileWord ++ rest ∧
        trimChars rest = name.toList
  | .blankHeader, s => ∃ inner, s = '[' :: (inner ++ [']']) ∧ trimChars inner = []
  | .malformedHeader text, s => s = text.toList ∧ s ≠ [] ∧ s.head? ≠ some '#' ∧
      ¬ (s.head? = some '[' ↔ s.getLast? = some ']')
  | .property name value, s => IsText s ∧
      ∃ before after, s = before ++ '=' :: after ∧ '=' ∉ before ∧
        trimChars before = name.toList ∧ trimChars after = value.toList
  | .unknown, s => IsText s ∧ '=' ∉ s

theorem headerOf_plain {name : String} {inner : List Char} (hname : name ≠ "")
    (hword : ¬ profileWord <+: name.toList) (hinner : trimChars inner = name.toList) :
    headerOf inner = .header ⟨name, false⟩ := by
  have hempty : name.toList.isEmpty = false := by
    rw [List.isEmpty_eq_false_iff]
    exact fun h => hname (String.toList_eq_nil_iff.1 h)
  have hprefix : profileWord.isPrefixOf name.toList = false := by
    rw [Bool.eq_false_iff]
    exact fun h => hword (List.isPrefixOf_iff_prefix.1 h)
  unfold headerOf
  simp [hinner, hprefix, hempty]

theorem headerOf_prefixed {name : String} {inner rest : List Char} (hname : name ≠ "")
    (hinner : trimChars inner = profileWord ++ rest) (hrest : trimChars rest = name.toList) :
    headerOf inner = .header ⟨name, true⟩ := by
  have hempty : name.toList.isEmpty = false := by
    rw [List.isEmpty_eq_false_iff]
    exact fun h => hname (String.toList_eq_nil_iff.1 h)
  have hprefix : profileWord.isPrefixOf (profileWord ++ rest) = true :=
    List.isPrefixOf_iff_prefix.2 (List.prefix_append _ _)
  unfold headerOf
  simp [hinner, hprefix, hrest, hempty]

theorem headerOf_blank {inner : List Char} (hinner : trimChars inner = []) :
    headerOf inner = .blankHeader := by
  unfold headerOf
  rw [hinner]; rfl

/-- A line in brackets is a header. -/
theorem ofText_brackets {line : String} {inner : List Char}
    (h : trimChars line.toList = '[' :: (inner ++ [']'])) : ofText line = headerOf inner := by
  have hlast : ('[' :: (inner ++ [']'])).getLast? = some ']' := by
    rw [← List.cons_append, List.getLast?_concat]
  have hinner : (('[' :: (inner ++ [']'])).drop 1).dropLast = inner := by
    rw [List.drop_one, List.tail_cons, List.dropLast_concat]
  unfold ofText
  simp only [h, hlast, hinner]
  rfl

/-- **A line is read as what it spells.** -/
theorem ofText_of_spells {l : ProfileLine} {line : String} (h : l.Spells (trimChars line.toList)) :
    ofText line = l := by
  cases l with
  | empty =>
    unfold ofText
    rcases h with h | h
    · rw [h]; rfl
    · simp [h]
  | header header =>
    obtain ⟨name, isPrefixed⟩ := header
    cases isPrefixed with
    | false =>
      obtain ⟨hname, hword, inner, hs, hinner⟩ := h
      rw [ofText_brackets hs, headerOf_plain hname hword hinner]
    | true =>
      obtain ⟨hname, inner, rest, hs, hinner, hrest⟩ := h
      rw [ofText_brackets hs, headerOf_prefixed hname hinner hrest]
  | blankHeader =>
    obtain ⟨inner, hs, hinner⟩ := h
    rw [ofText_brackets hs, headerOf_blank hinner]
  | malformedHeader text =>
    obtain ⟨hs, hne, hhash, hone⟩ := h
    unfold ofText
    rw [hs] at hne hhash hone ⊢
    -- one of the two brackets is there and the other is not
    by_cases hopen : text.toList.head? = some '[' <;>
      by_cases hclose : text.toList.getLast? = some ']' <;> simp_all
  | property name value =>
    obtain ⟨⟨hne, hhash, hopen, hclose⟩, before, after, hs, hbefore, hname, hvalue⟩ := h
    have hsplit : splitFirst (· = '=') (trimChars line.toList) = (before, some after) := by
      rw [hs]
      exact Url.splitFirst_of_mark (fun d hd => decide_eq_false fun he => hbefore (he ▸ hd))
        (decide_eq_true rfl)
    unfold ofText
    simp [hne, hhash, hopen, hclose, hsplit, hname, hvalue]
  | unknown =>
    obtain ⟨⟨hne, hhash, hopen, hclose⟩, hno⟩ := h
    have hsplit : splitFirst (· = '=') (trimChars line.toList) = (trimChars line.toList, none) :=
      Url.splitFirst_none fun d hd => decide_eq_false fun he => hno (he ▸ hd)
    unfold ofText
    simp [hne, hhash, hopen, hclose, hsplit]

end ProfileLine

namespace Association

variable {κ α : Type} [DecidableEq κ]

/-- The last value of a key counts. -/
theorem put_put (key : κ) (first last : α) (pairs : List (κ × α)) :
    put key last (put key first pairs) = put key last pairs := by
  induction pairs with
  | nil => grind [put]
  | cons p rest ih => grind [put]

theorem mem_keys_put (key other : κ) (value : α) (pairs : List (κ × α)) :
    other ∈ (put key value pairs).map (·.1) ↔ other = key ∨ other ∈ pairs.map (·.1) := by
  induction pairs with
  | nil => grind [put]
  | cons p rest ih => grind [put]

theorem nodup_put (key : κ) (value : α) {pairs : List (κ × α)} (h : (pairs.map (·.1)).Nodup) :
    ((put key value pairs).map (·.1)).Nodup := by
  induction pairs with
  | nil => simp [put]
  | cons p rest ih =>
    rw [List.map_cons, List.nodup_cons] at h
    rw [put]
    split
    · rw [List.map_cons, List.nodup_cons]; exact h
    · rename_i hne
      have hmem := mem_keys_put key p.1 value rest
      rw [List.map_cons, List.nodup_cons, hmem, not_or]
      exact ⟨⟨hne, h.1⟩, ih h.2⟩

theorem ofPairs_concat (pairs : List (κ × α)) (p : κ × α) :
    ofPairs (pairs ++ [p]) = put p.1 p.2 (ofPairs pairs) := by
  rw [ofPairs, List.foldl_append]; rfl

theorem mem_keys_ofPairs (key : κ) (pairs : List (κ × α)) :
    key ∈ (ofPairs pairs).map (·.1) ↔ key ∈ pairs.map (·.1) := by
  induction pairs using List.reverseRecOn with
  | nil => exact Iff.rfl
  | append_singleton pairs p ih =>
    rw [ofPairs_concat, mem_keys_put, ih, List.map_append, List.mem_append, or_comm]
    simp only [List.map_cons, List.map_nil, List.mem_singleton]

theorem nodup_ofPairs (pairs : List (κ × α)) : ((ofPairs pairs).map (·.1)).Nodup := by
  induction pairs using List.reverseRecOn with
  | nil => exact List.nodup_nil
  | append_singleton pairs p ih => rw [ofPairs_concat]; exact nodup_put _ _ ih

/-- A key has its last value. -/
theorem lookup_ofPairs (key : κ) (pairs : List (κ × α)) :
    (ofPairs pairs).lookup key = (pairs.filter (·.1 = key)).getLast?.map (·.2) := by
  induction pairs using List.reverseRecOn with
  | nil => rfl
  | append_singleton pairs p ih =>
    rw [ofPairs_concat, lookup_put, ih, List.filter_append]
    by_cases h : key = p.1
    · rw [if_pos h, List.filter_cons_of_pos (by simp [h])]; simp
    · rw [if_neg h, List.filter_cons_of_neg (by simpa using fun h' => h h'.symm), List.filter_nil,
        List.append_nil]

theorem isSome_lookup (key : κ) (pairs : List (κ × α)) :
    (pairs.lookup key).isSome ↔ key ∈ pairs.map (·.1) := by
  induction pairs with
  | nil => simp
  | cons p rest ih =>
    obtain ⟨k, v⟩ := p
    by_cases h : key = k
    · simp [h]
    · have hne : (key == k) = false := by simpa using h
      simp only [List.lookup_cons, hne, ih, List.map_cons, List.mem_cons, h, false_or]

/-- Among different keys, a key has one pair at most. -/
theorem filter_of_nodup {pairs : List (κ × α)} (h : (pairs.map (·.1)).Nodup) (key : κ) :
    (pairs.filter (·.1 = key)).getLast?.map (·.2) = pairs.lookup key := by
  induction pairs with
  | nil => rfl
  | cons p rest ih =>
    rw [List.map_cons, List.nodup_cons] at h
    by_cases hp : p.1 = key
    · have hnone : rest.filter (·.1 = key) = [] := by
        rw [List.filter_eq_nil_iff]
        intro q hq hkey
        exact h.1 (List.mem_map.2 ⟨q, hq, by rw [hp]; exact of_decide_eq_true hkey⟩)
      rw [List.filter_cons_of_pos (by simpa using hp), hnone]
      subst hp
      exact List.lookup_cons_self.symm
    · rw [List.filter_cons_of_neg (by simpa using hp), ih h.2]
      have hp' : (key == p.1) = false := by simpa using fun h => hp h.symm
      obtain ⟨k, v⟩ := p
      simp only [List.lookup_cons, hp']

end Association

/-- A block of a profile file: a header with the properties below it. -/
structure ProfileBlock where
  header : ProfileHeader
  properties : List (String × String)
deriving DecidableEq, Repr

namespace ProfileBlock

/-- The lines of a block that count. -/
def items (b : ProfileBlock) : List ProfileLine :=
  .header b.header :: b.properties.map fun p => .property p.1 p.2

/-- Whether no property of a block is set twice. -/
def IsPlain (b : ProfileBlock) : Prop := (b.properties.map (·.1)).Nodup

/-- The last block with a header. -/
def last (h : ProfileHeader) (blocks : List ProfileBlock) : Option ProfileBlock :=
  (blocks.filter (·.header = h)).getLast?

/-- The block that a name stands for: the last one with the bare name, or else the last one where
the name stands behind the word. -/
def named (name : String) (blocks : List ProfileBlock) : Option ProfileBlock :=
  (last ⟨name, false⟩ blocks).or (last ⟨name, true⟩ blocks)

/-- What is wrong with a line behind blocks. -/
def fault (place : Place) (blocks : List ProfileBlock) : ProfileLine → Option Failure
  | .empty | .header _ => none
  | .blankHeader => some (.blankProfileName place)
  | .malformedHeader text => some (.profile place (.header text))
  | .property name _ =>
    match blocks.getLast? with
    | none => some (.profile place .noProfile)
    | some b =>
      if name ∈ b.properties.map (·.1) then
        some (.profile place (.duplicateProperty name b.header.name))
      else none
  | .unknown => some (.profile place (if blocks = [] then .noProfile else .noEqualsSign))

/-- The blocks with one more line. -/
def extend (blocks : List ProfileBlock) : ProfileLine → List ProfileBlock
  | .header h => blocks ++ [⟨h, []⟩]
  | .property name value =>
    match blocks.getLast? with
    | none => blocks
    | some b => blocks.dropLast ++ [⟨b.header, b.properties ++ [(name, value)]⟩]
  | _ => blocks

end ProfileBlock

namespace ProfileSections

open ProfileBlock

/-- What is read of blocks: the properties of the last block of each header. -/
def ofBlocks (blocks : List ProfileBlock) : ProfileSections :=
  ⟨Association.ofPairs (blocks.map fun b => (b.header, b.properties)),
    blocks.getLast?.map (·.header)⟩

theorem ofBlocks_concat (blocks : List ProfileBlock) (b : ProfileBlock) :
    ofBlocks (blocks ++ [b]) =
      ⟨Association.put b.header b.properties (ofBlocks blocks).sections, some b.header⟩ := by
  unfold ofBlocks
  rw [List.map_append, List.map_singleton, Association.ofPairs_concat, List.getLast?_concat]
  rfl

/-- **A header has the properties of its last block.** -/
theorem lookup_ofBlocks (h : ProfileHeader) (blocks : List ProfileBlock) :
    (ofBlocks blocks).sections.lookup h = (last h blocks).map (·.properties) := by
  unfold ofBlocks last
  rw [Association.lookup_ofPairs, List.filter_map, List.getLast?_map, Option.map_map]
  rfl

theorem propertiesOf_concat (blocks : List ProfileBlock) (b : ProfileBlock) :
    (ofBlocks (blocks ++ [b])).propertiesOf b.header = b.properties := by
  rw [ofBlocks_concat, propertiesOf, Association.lookup_put, if_pos rfl]; rfl

/-- **What a line adds to blocks**, or what is wrong with it. -/
theorem result_addLine (place : Place) (l : ProfileLine) (blocks : List ProfileBlock) :
    ((ofBlocks blocks).addLine place l).run.result =
      match fault place blocks l with
      | some f => .error f
      | none => .ok (ofBlocks (extend blocks l)) := by
  cases l with
  | empty | blankHeader | malformedHeader => rfl
  | header h =>
    have hstart : ∀ p : ProfileSections, (p.startSection place.source h).result =
        ⟨Association.put h [] p.sections, some h⟩ := by
      intro p
      unfold startSection
      split <;> rfl
    show Except.ok (startSection place.source h (ofBlocks blocks)).result = _
    rw [hstart]
    show _ = Except.ok (ofBlocks (blocks ++ [⟨h, []⟩]))
    rw [ofBlocks_concat]
  | property name value =>
    show (ofBlocks blocks).addProperty place name value = _
    -- a property belongs to the last block, so the blocks are taken from their end
    cases blocks using List.reverseRecOn with
    | nil => rfl
    | append_singleton front b =>
      have hcurrent : (ofBlocks (front ++ [b])).current = some b.header := by
        rw [ofBlocks_concat]
      have hlookup := Association.isSome_lookup name b.properties
      unfold addProperty fault extend
      simp only [hcurrent, propertiesOf_concat, List.getLast?_concat, List.dropLast_concat]
      by_cases hmem : name ∈ b.properties.map (·.1)
      · rw [if_pos (hlookup.2 hmem), if_pos hmem]
      · rw [if_neg (fun h => hmem (hlookup.1 h)), if_neg hmem]
        simp only [ofBlocks_concat, Association.put_put]
  | unknown =>
    cases blocks using List.reverseRecOn with
    | nil => rfl
    | append_singleton front b =>
      have hcurrent : (ofBlocks (front ++ [b])).current = some b.header := by
        rw [ofBlocks_concat]
      have hne : front ++ [b] ≠ [] := by simp
      show Except.error (Failure.profile place
        (if (ofBlocks (front ++ [b])).current.isNone then .noProfile else .noEqualsSign)) = _
      rw [hcurrent, fault, if_neg hne]; rfl

/-- The result of lines from a line number on, behind blocks. -/
def readFrom (source : String) (number : Nat) (lines : List String) (blocks : List ProfileBlock) :
    Except Failure ProfileSections :=
  (addLines source number lines (ofBlocks blocks)).run.result

theorem readFrom_cons {source : String} {number : Nat} {l : ProfileLine} {line : String}
    (h : l.Spells (trimChars line.toList)) (rest : List String) (blocks : List ProfileBlock) :
    readFrom source number (line :: rest) blocks =
      match fault ⟨source, number⟩ blocks l with
      | some f => .error f
      | none => readFrom source (number + 1) rest (extend blocks l) := by
  unfold readFrom
  rw [addLines, Attempt.result_bind, ProfileLine.ofText_of_spells h, result_addLine]
  cases fault ⟨source, number⟩ blocks l with
  | some f => rfl
  | none => rfl

end ProfileSections

/-- Whether lines hold items, with blank lines and comments anywhere in between. -/
inductive ProfileLine.Hold : List String → List ProfileLine → Prop
  | nil : Hold [] []
  | skip {line : String} {lines : List String} {items : List ProfileLine}
      (h : ProfileLine.empty.Spells (trimChars line.toList)) (hs : Hold lines items) :
      Hold (line :: lines) items
  | item {line : String} {lines : List String} {item : ProfileLine} {items : List ProfileLine}
      (h : item.Spells (trimChars line.toList)) (hs : Hold lines items) :
      Hold (line :: lines) (item :: items)

namespace ProfileBlock

open ProfileSections ProfileLine

/-- Whether nothing is wrong with items behind blocks. -/
def Fit : List ProfileBlock → List ProfileLine → Prop
  | _, [] => True
  | blocks, l :: rest => (∀ place, fault place blocks l = none) ∧ Fit (extend blocks l) rest

theorem fit_append {blocks : List ProfileBlock} {a b : List ProfileLine} :
    Fit blocks (a ++ b) ↔ Fit blocks a ∧ Fit (a.foldl extend blocks) b := by
  induction a generalizing blocks with
  | nil => simp [Fit]
  | cons l a ih => rw [List.cons_append, Fit, Fit, ih, List.foldl_cons, and_assoc]

/-- Properties with new names fit behind a block. -/
theorem fit_properties (front : List ProfileBlock) (h : ProfileHeader)
    (done props : List (String × String)) (hplain : ((done ++ props).map (·.1)).Nodup) :
    Fit (front ++ [⟨h, done⟩]) (props.map fun p => .property p.1 p.2) ∧
    (props.map fun p => .property p.1 p.2).foldl extend (front ++ [⟨h, done⟩]) =
      front ++ [⟨h, done ++ props⟩] := by
  induction props generalizing done with
  | nil => exact ⟨trivial, by rw [List.append_nil]; rfl⟩
  | cons p props ih =>
    have hnew : p.1 ∉ done.map (·.1) := by
      rw [List.map_append, List.nodup_append] at hplain
      exact fun hmem => hplain.2.2 _ hmem _ (List.mem_cons_self ..) rfl
    have hnext : extend (front ++ [⟨h, done⟩]) (.property p.1 p.2) =
        front ++ [⟨h, done ++ [p]⟩] := by
      simp only [extend, List.getLast?_concat, List.dropLast_concat]
    have ih := ih (done ++ [p]) (by rwa [List.append_assoc])
    rw [List.map_cons, Fit, List.foldl_cons, hnext]
    refine ⟨⟨fun place => ?_, ih.1⟩, by rw [ih.2, List.append_assoc]; rfl⟩
    simp only [fault, List.getLast?_concat]
    exact if_neg hnew

/-- **Blocks fit behind each other** if none sets a property twice. -/
theorem fit_blocks (front : List ProfileBlock) {blocks : List ProfileBlock}
    (hplain : ∀ b ∈ blocks, b.IsPlain) :
    Fit front (blocks.flatMap items) ∧
      (blocks.flatMap items).foldl extend front = front ++ blocks := by
  induction blocks generalizing front with
  | nil => exact ⟨trivial, (List.append_nil _).symm⟩
  | cons b blocks ih =>
    have hb := fit_properties front b.header [] b.properties (hplain b (List.mem_cons_self ..))
    have hfold : b.items.foldl extend front = front ++ [b] := hb.2
    have ih := ih (front ++ [b]) fun b' hb' => hplain b' (List.mem_cons_of_mem _ hb')
    rw [List.flatMap_cons, fit_append, List.foldl_append, hfold]
    refine ⟨⟨⟨fun place => rfl, hb.1⟩, ih.1⟩, ?_⟩
    rw [ih.2, List.append_assoc]; rfl

/-- Items that fit are read, whatever follows. -/
theorem readFrom_items {source : String} {lines : List String} {items : List ProfileLine}
    (h : Hold lines items) {number : Nat} {blocks : List ProfileBlock} (hfit : Fit blocks items)
    (rest : List String) :
    readFrom source number (lines ++ rest) blocks =
      readFrom source (number + lines.length) rest (items.foldl extend blocks) := by
  induction h generalizing number blocks with
  | nil => rfl
  | @skip line lines items h hs ih =>
    rw [List.cons_append, readFrom_cons h, List.length_cons, Nat.add_comm lines.length,
      ← Nat.add_assoc]
    exact ih hfit
  | @item line lines item items h hs ih =>
    rw [List.cons_append, readFrom_cons h, hfit.1, List.length_cons, Nat.add_comm lines.length,
      ← Nat.add_assoc, List.foldl_cons]
    exact ih hfit.2

theorem readFrom_blocks (source : String) {lines : List String} {blocks : List ProfileBlock}
    (h : Hold lines (blocks.flatMap items)) (hplain : ∀ b ∈ blocks, b.IsPlain)
    (rest : List String) :
    readFrom source 1 (lines ++ rest) [] = readFrom source (lines.length + 1) rest blocks := by
  obtain ⟨hfit, hfold⟩ := fit_blocks [] hplain
  rw [readFrom_items h hfit, hfold, Nat.add_comm]; rfl

/-- The line of an item, between the lines before and behind it. -/
theorem hold_split {lines : List String} {before behind : List ProfileLine} {item : ProfileLine}
    (h : Hold lines (before ++ item :: behind)) :
    ∃ front line rest, lines = front ++ line :: rest ∧ Hold front before ∧
      item.Spells (trimChars line.toList) := by
  generalize hitems : before ++ item :: behind = items at h
  induction h generalizing before with
  | nil => simp at hitems
  | @skip line lines items h hs ih =>
    obtain ⟨front, line', rest, rfl, hfront, hitem⟩ := ih hitems
    exact ⟨line :: front, line', rest, rfl, .skip h hfront, hitem⟩
  | @item line lines first items h hs ih =>
    cases before with
    | nil =>
      obtain ⟨rfl, -⟩ := List.cons_eq_cons.1 hitems
      exact ⟨[], line, lines, rfl, .nil, h⟩
    | cons first' before =>
      obtain ⟨rfl, hrest⟩ := List.cons_eq_cons.1 hitems
      obtain ⟨front, line', rest, rfl, hfront, hitem⟩ := ih hrest
      exact ⟨line :: front, line', rest, rfl, .item h hfront, hitem⟩

end ProfileBlock

namespace Profiles

open ProfileBlock ProfileSections ProfileLine

/-- The sections of one kind by their names. -/
def namedSections (p : ProfileSections) (isPrefixed : Bool) :
    List (String × List (String × String)) :=
  (p.sections.filter fun s => s.1.isPrefixed == isPrefixed).map fun s => (s.1.name, s.2)

theorem profiles_eq (p : ProfileSections) :
    p.profiles = (Association.ofPairs (namedSections p true ++ namedSections p false)).map
      fun s => ⟨s.1, s.2⟩ := rfl

/-- The last section of one kind with a name is the section of the header. -/
theorem lookup_namedSections (blocks : List ProfileBlock) (isPrefixed : Bool) (name : String) :
    ((namedSections (ofBlocks blocks) isPrefixed).filter (·.1 = name)).getLast?.map (·.2) =
      (last ⟨name, isPrefixed⟩ blocks).map (·.properties) := by
  have hheader : ∀ s ∈ (ofBlocks blocks).sections,
      ((decide (s.1.name = name)) && (s.1.isPrefixed == isPrefixed)) =
        decide (s.1 = ⟨name, isPrefixed⟩) := by
    intro s _
    obtain ⟨⟨n, b⟩, props⟩ := s
    rw [Bool.eq_iff_iff, Bool.and_eq_true, decide_eq_true_iff, decide_eq_true_iff, beq_iff_eq,
      ProfileHeader.mk.injEq]
  have hnodup : ((ofBlocks blocks).sections.map (·.1)).Nodup := Association.nodup_ofPairs _
  rw [← lookup_ofBlocks, ← Association.filter_of_nodup hnodup, namedSections, List.filter_map,
    List.filter_filter, List.getLast?_map, Option.map_map]
  have hfilter := List.filter_congr hheader
  simp only [Function.comp_def] at hfilter ⊢
  rw [hfilter]

/-- **A name stands for the last block with the bare name**, or else for the last one where it
stands behind the word. -/
theorem find?_ofBlocks (name : String) (blocks : List ProfileBlock) :
    (ofBlocks blocks).profiles.find? name =
      (named name blocks).map fun b => ⟨name, b.properties⟩ := by
  have hfind : ∀ pairs : List (String × List (String × String)),
      List.find? (fun p : Profile => p.name == name) (pairs.map fun s => ⟨s.1, s.2⟩) =
        (pairs.lookup name).map fun properties => ⟨name, properties⟩ := by
    intro pairs
    induction pairs with
    | nil => rfl
    | cons p rest ih =>
      obtain ⟨n, properties⟩ := p
      by_cases h : n = name
      · subst h
        simp
      · have hne : (name == n) = false := by simpa using fun h' => h h'.symm
        rw [List.map_cons, List.find?_cons_of_neg (by simpa using h), ih]
        simp only [List.lookup_cons, hne]
  unfold find?
  rw [profiles_eq, hfind, Association.lookup_ofPairs, List.filter_append, List.getLast?_append,
    Option.map_or, lookup_namedSections, lookup_namedSections, named, ← Option.map_or,
    Option.map_map]
  rfl

theorem mem_keys_namedSections (p : ProfileSections) (isPrefixed : Bool) (name : String) :
    name ∈ (namedSections p isPrefixed).map (·.1) ↔ ⟨name, isPrefixed⟩ ∈ p.sections.map (·.1) := by
  unfold namedSections
  simp only [List.map_map, List.mem_map, List.mem_filter, beq_iff_eq]
  constructor
  · rintro ⟨⟨⟨n, b⟩, properties⟩, ⟨hs, rfl⟩, rfl⟩
    exact ⟨_, hs, rfl⟩
  · rintro ⟨⟨h, properties⟩, hs, rfl⟩
    exact ⟨_, ⟨hs, rfl⟩, rfl⟩

/-- The names of the profiles are those of the headers. -/
theorem name_ofBlocks (name : String) (blocks : List ProfileBlock) :
    name ∈ (ofBlocks blocks).profiles.map (·.name) ↔ ∃ b ∈ blocks, b.header.name = name := by
  have hkey : ∀ h, h ∈ (ofBlocks blocks).sections.map (·.1) ↔ ∃ b ∈ blocks, b.header = h := by
    intro h
    unfold ofBlocks
    rw [Association.mem_keys_ofPairs, List.map_map, List.mem_map]
    rfl
  have hnames : (ofBlocks blocks).profiles.map (·.name) =
      (Association.ofPairs (namedSections (ofBlocks blocks) true ++
        namedSections (ofBlocks blocks) false)).map (·.1) := by
    rw [profiles_eq, List.map_map]; rfl
  rw [hnames, Association.mem_keys_ofPairs, List.map_append, List.mem_append,
    mem_keys_namedSections, mem_keys_namedSections, hkey, hkey]
  constructor
  · rintro (⟨b, hb, hh⟩ | ⟨b, hb, hh⟩)
    · exact ⟨b, hb, by rw [hh]⟩
    · exact ⟨b, hb, by rw [hh]⟩
  · rintro ⟨b, hb, rfl⟩
    obtain ⟨⟨n, isPrefixed⟩, properties⟩ := b
    cases isPrefixed with
    | true => exact .inl ⟨_, hb, rfl⟩
    | false => exact .inr ⟨_, hb, rfl⟩

theorem nodup_names (p : ProfileSections) : (p.profiles.map (·.name)).Nodup := by
  rw [profiles_eq, List.map_map]
  exact Association.nodup_ofPairs _

/-- A file of blocks is read as its blocks. -/
theorem result_ofLines (source : String) {lines : List String} {blocks : List ProfileBlock}
    (h : Hold lines (blocks.flatMap items)) (hplain : ∀ b ∈ blocks, b.IsPlain) :
    (ofLines source lines).run.result = .ok (ofBlocks blocks).profiles := by
  have hread := readFrom_blocks source h hplain []
  rw [List.append_nil] at hread
  show ((ProfileSections.empty.addLines source 1 lines >>= fun p => pure p.profiles :
    Attempt Profiles)).run.result = _
  rw [Attempt.result_bind]
  show (readFrom source 1 lines [] >>= fun p => .ok p.profiles) = _
  rw [hread]; rfl

/-- A fault behind a file of blocks is reported with its line, whatever follows. -/
theorem result_ofLines_fault (source : String) {front : List String} {blocks : List ProfileBlock}
    {line : String} (rest : List String) {l : ProfileLine} {f : Failure}
    (h : Hold front (blocks.flatMap items)) (hplain : ∀ b ∈ blocks, b.IsPlain)
    (hline : l.Spells (trimChars line.toList))
    (hfault : fault ⟨source, front.length + 1⟩ blocks l = some f) :
    (ofLines source (front ++ line :: rest)).run.result = .error f := by
  have hread := readFrom_blocks source h hplain (line :: rest)
  rw [readFrom_cons hline, hfault] at hread
  show ((ProfileSections.empty.addLines source 1 (front ++ line :: rest) >>= fun p =>
    pure p.profiles : Attempt Profiles)).run.result = _
  rw [Attempt.result_bind]
  show (readFrom source 1 (front ++ line :: rest) [] >>= fun p => .ok p.profiles) = _
  rw [hread]; rfl

/-- A list with a repetition has a first one. -/
theorem exists_first_repetition {α : Type} {xs : List α} (h : ¬ xs.Nodup) :
    ∃ front x rest, xs = front ++ x :: rest ∧ front.Nodup ∧ x ∈ front := by
  classical
  induction xs using List.reverseRecOn with
  | nil => exact absurd List.nodup_nil h
  | append_singleton xs x ih =>
    by_cases hxs : xs.Nodup
    · refine ⟨xs, x, [], rfl, hxs, ?_⟩
      by_contra hx
      refine h (List.nodup_append.2 ⟨hxs, by simp, ?_⟩)
      intro y hy z hz
      rw [List.mem_singleton.1 hz]
      exact fun hyx => hx (hyx ▸ hy)
    · obtain ⟨front, y, rest, rfl, hfront, hy⟩ := ih hxs
      exact ⟨front, y, rest ++ [x], by rw [List.append_assoc]; rfl, hfront, hy⟩

/-- The first property that a block sets twice, behind blocks that set none twice. -/
theorem exists_repeated {blocks : List ProfileBlock} (h : ∃ b ∈ blocks, ¬ b.IsPlain) :
    ∃ (front : List ProfileBlock) (b : ProfileBlock) (p : String × String)
      (rest : List ProfileLine), (∀ b' ∈ front ++ [b], b'.IsPlain) ∧ p.1 ∈ b.properties.map (·.1) ∧
        blocks.flatMap items = (front ++ [b]).flatMap items ++ .property p.1 p.2 :: rest := by
  induction blocks with
  | nil => obtain ⟨b, hb, -⟩ := h; cases hb
  | cons b blocks ih =>
    -- either the first block is in order, or the repetition is in it
    by_cases hb : b.IsPlain
    · have hrest : ∃ b' ∈ blocks, ¬ b'.IsPlain := by
        obtain ⟨b', hb', hnot⟩ := h
        rcases List.mem_cons.1 hb' with rfl | hb'
        · exact absurd hb hnot
        · exact ⟨b', hb', hnot⟩
      obtain ⟨front, b', p, rest, hplain, hp, hitems⟩ := ih hrest
      refine ⟨b :: front, b', p, rest, ?_, hp, ?_⟩
      · rw [List.cons_append, List.forall_mem_cons]; exact ⟨hb, hplain⟩
      · rw [List.flatMap_cons, hitems, List.cons_append, List.flatMap_cons, List.append_assoc]
    · obtain ⟨front, k, rest, hmap, hfront, hk⟩ := exists_first_repetition hb
      obtain ⟨done, more, hprops, hdone, hmore⟩ := List.map_eq_append_iff.1 hmap
      obtain ⟨p, later, hmore', hpk, -⟩ := List.map_eq_cons_iff.1 hmore
      refine ⟨[], ⟨b.header, done⟩, p,
        (later.map fun p => .property p.1 p.2) ++ blocks.flatMap items, ?_, ?_, ?_⟩
      · rw [List.nil_append, List.forall_mem_singleton, IsPlain, hdone]; exact hfront
      · rw [hdone, hpk]; exact hk
      · rw [List.flatMap_cons, items, hprops, hmore', List.map_append, List.map_cons]
        simp [items]

/-- **What a profile file means.** A file of blocks that set no property twice is read. Its
profiles have the names of its headers, each once, and a name has the properties of its last block
with the bare name, or else of the last with the word in front; so blocks with different headers
may change places. If a block sets a property twice, the file is refused for that, and any other
line that no file holds is reported with its number, whatever follows. -/
theorem ofLines_blocks (source : String) :
    (∀ (lines : List String) (blocks : List ProfileBlock), Hold lines (blocks.flatMap items) →
      (∀ b ∈ blocks, b.IsPlain) →
      ∃ profiles, (ofLines source lines).run.result = .ok profiles ∧
        (profiles.map (·.name)).Nodup ∧
        (∀ name, name ∈ profiles.map (·.name) ↔ ∃ b ∈ blocks, b.header.name = name) ∧
        (∀ name, profiles.find? name = (named name blocks).map fun b => ⟨name, b.properties⟩) ∧
        ∀ (lines' : List String) (blocks' : List ProfileBlock),
          Hold lines' (blocks'.flatMap items) →
          (∀ h, blocks'.filter (·.header = h) = blocks.filter (·.header = h)) →
          ∃ profiles', (ofLines source lines').run.result = .ok profiles' ∧
            ∀ name, profiles'.find? name = profiles.find? name) ∧
    (∀ (lines : List String) (blocks : List ProfileBlock), Hold lines (blocks.flatMap items) →
      (∃ b ∈ blocks, ¬ b.IsPlain) →
      ∃ place name profile, (ofLines source lines).run.result =
        .error (.profile place (.duplicateProperty name profile))) ∧
    ∀ (front : List String) (blocks : List ProfileBlock) (line : String) (rest : List String)
      (l : ProfileLine) (f : Failure), Hold front (blocks.flatMap items) →
      (∀ b ∈ blocks, b.IsPlain) → l.Spells (trimChars line.toList) →
      fault ⟨source, front.length + 1⟩ blocks l = some f →
      (ofLines source (front ++ line :: rest)).run.result = .error f := by
  refine ⟨fun lines blocks h hplain => ?_, fun lines blocks h hrepeat => ?_,
    fun front blocks line rest l f h hplain hline hfault =>
      result_ofLines_fault source rest h hplain hline hfault⟩
  · refine ⟨_, result_ofLines source h hplain, nodup_names _, fun name => name_ofBlocks name blocks,
      fun name => find?_ofBlocks name blocks, fun lines' blocks' h' hsame => ?_⟩
    -- the same blocks for each header, so these set no property twice either
    have hplain' : ∀ b ∈ blocks', b.IsPlain := by
      intro b hb
      have hmem : b ∈ blocks'.filter (·.header = b.header) :=
        List.mem_filter.2 ⟨hb, decide_eq_true rfl⟩
      rw [hsame] at hmem
      exact hplain b (List.mem_filter.1 hmem).1
    refine ⟨_, result_ofLines source h' hplain', fun name => ?_⟩
    rw [find?_ofBlocks, find?_ofBlocks, named, named, last, last, last, last, hsame, hsame]
  · obtain ⟨front, b, p, more, hplain, hp, hitems⟩ := exists_repeated hrepeat
    rw [hitems] at h
    obtain ⟨lines', line, rest, rfl, hfront, hline⟩ := hold_split h
    refine ⟨⟨source, lines'.length + 1⟩, p.1, b.header.name,
      result_ofLines_fault source rest hfront hplain hline ?_⟩
    simp only [fault, List.getLast?_concat]
    exact if_pos hp

/-- A bare name replaces the same name behind the word, and a second value is refused. -/
theorem ofLines_blocks_replaced :
    (∃ profiles, (ofLines "f" ["# all", "[profile a]", " x = 1 ", "[a]", "y = 2=3"]).run.result =
      .ok profiles ∧ profiles.find? "a" = some ⟨"a", [("y", "2=3")]⟩) ∧
    (ofLines "f" ["[a]", "x = 1", "x = 2", "?"]).run.result =
      .error (.profile ⟨"f", 3⟩ (.duplicateProperty "x" "a")) := by
  have hbare : (ProfileLine.header ⟨"a", false⟩).Spells (trimChars "[a]".toList) :=
    ⟨by decide, by decide, ['a'], rfl, rfl⟩
  obtain ⟨hread, -, hfault⟩ := ofLines_blocks "f"
  constructor
  · obtain ⟨profiles, hresult, -, -, hfind, -⟩ := hread
      ["# all", "[profile a]", " x = 1 ", "[a]", "y = 2=3"]
      [⟨⟨"a", true⟩, [("x", "1")]⟩, ⟨⟨"a", false⟩, [("y", "2=3")]⟩]
      (.skip (.inr rfl)
        (.item ⟨by decide, "profile a".toList, ['a'], rfl, rfl, rfl⟩
          (.item ⟨by decide, "x ".toList, " 1".toList, rfl, by decide, rfl, rfl⟩
            (.item hbare (.item ⟨by decide, "y ".toList, " 2=3".toList, rfl, by decide, rfl, rfl⟩
              .nil)))))
      (by simp [IsPlain])
    exact ⟨profiles, hresult, (hfind "a").trans rfl⟩
  · exact hfault ["[a]", "x = 1"] [⟨⟨"a", false⟩, [("x", "1")]⟩] "x = 2" ["?"] (.property "x" "2") _
      (.item hbare
        (.item ⟨by decide, "x ".toList, " 1".toList, rfl, by decide, rfl, rfl⟩ .nil))
      (by simp [IsPlain]) ⟨by decide, "x ".toList, " 2".toList, rfl, by decide, rfl, rfl⟩ rfl

end Profiles

end ServiceClient
