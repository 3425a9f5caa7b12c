import PagePreview.Markup.Summary
import PagePreview.Proofs.Render.Markup
import Mathlib.Data.List.Nodup

/-!
# Reading the markup of divisions

Texts and `div` elements in one another, each element with the marks by which a summary knows what it
stands for. The reader of markup finds in the markup of such a tree what it was written for: the
character behind each reference, the marks in each tag, and the tags themselves. The summary that is
meant to be read back from the tree is given beside it.
-/

namespace PagePreview
open Text

namespace Divs

inductive Mark
  | stub | icon
  deriving DecidableEq

def Mark.name : Mark → String
  | stub => "data-ai-stub"
  | icon => "data-ai-icon"

theorem Mark.name_injective : Function.Injective Mark.name := by
  rintro (_ | _) (_ | _) same
  · rfl
  · exact absurd same (by decide)
  · exact absurd same (by decide)
  · rfl

/-- The marks of an element with their values, each at most once. -/
structure Marks where
  list : List (Mark × String)
  distinct : (list.map Prod.fst).Nodup

theorem Marks.names_nodup (marks : Marks) : (marks.list.map (·.1.name)).Nodup := by
  have both : marks.list.map (·.1.name) = (marks.list.map Prod.fst).map Mark.name := by
    rw [List.map_map]
    rfl
  rw [both]
  exact marks.distinct.map Mark.name_injective

end Divs

inductive Divs
  | nil
  | text (s : String) (rest : Divs)
  | div (marks : Divs.Marks) (inner rest : Divs)

namespace Divs

/-- The values of the marks of one kind, in the order of the elements. -/
def values (mark : Mark) : Divs → List String
  | nil => []
  | text _ rest => rest.values mark
  | div marks inner rest =>
    (marks.list.filter (·.1 = mark)).map Prod.snd ++ inner.values mark ++ rest.values mark

def count : Divs → Nat
  | nil => 0
  | text _ rest => rest.count
  | div _ inner rest => 1 + inner.count + rest.count

def texts : Divs → List String
  | nil => []
  | text s rest => s :: rest.texts
  | div _ inner rest => inner.texts ++ rest.texts

def withText (s : String) (f : Divs) : Divs := if s.isEmpty then f else .text s f

/-- The same tree with each stretch of texts side by side as one text; `before` is the stretch so far,
and an empty one is no text. -/
def joined (before : String) : Divs → Divs
  | nil => withText before .nil
  | text s rest => rest.joined (before ++ s)
  | div marks inner rest => withText before (.div marks (inner.joined "") (rest.joined ""))

def runs (f : Divs) : List String := (f.joined "").texts

/-- A text whose runs of blanks are single spaces, with none at its ends. -/
def collapsed (s : String) : String := " ".intercalate ((words s.toList).map String.ofList)

def summary (f : Divs) : MarkupSummary where
  text := collapsed (" ".intercalate f.runs)
  elementCount := f.count
  stubMarkers := f.values .stub
  iconMarkers := f.values .icon

def IsHeld (s : String) : Prop := '\x00' ∉ s.toList ∧ '\r' ∉ s.toList

instance (s : String) : Decidable (IsHeld s) := inferInstanceAs (Decidable (_ ∧ _))

def AreHeld : Divs → Prop
  | nil => True
  | text s rest => IsHeld s ∧ rest.AreHeld
  | div marks inner rest => (∀ m ∈ marks.list, IsHeld m.2) ∧ inner.AreHeld ∧ rest.AreHeld

def escapedChars (s : String) : List Char := s.toList.flatMap JsxTree.entity

def markChars (m : Mark × String) : List Char :=
  ' ' :: m.1.name.toList ++ '=' :: '"' :: escapedChars m.2 ++ ['"']

def startChars (marks : List (Mark × String)) : List Char :=
  ['<', 'd', 'i', 'v'] ++ marks.flatMap markChars ++ ['>']

def endChars : List Char := ['<', '/', 'd', 'i', 'v', '>']

def chars : Divs → List Char
  | nil => []
  | text s rest => escapedChars s ++ rest.chars
  | div marks inner rest => startChars marks.list ++ inner.chars ++ endChars ++ rest.chars

def nodes : Divs → Nat
  | nil => 0
  | text _ rest => 1 + rest.nodes
  | div _ inner rest => 1 + inner.nodes + rest.nodes

theorem count_joined (f : Divs) (before : String) : (f.joined before).count = f.count := by
  have withText (s : String) (g : Divs) : (withText s g).count = g.count := by
    unfold Divs.withText
    split <;> rfl
  induction f generalizing before with
  | nil => rw [joined, withText]
  | text s rest ih => rw [joined, ih, count]
  | div marks inner rest ihi ihr => rw [joined, withText, count, count, ihi, ihr]

theorem values_joined (mark : Mark) (f : Divs) (before : String) :
    (f.joined before).values mark = f.values mark := by
  have withText (s : String) (g : Divs) : (withText s g).values mark = g.values mark := by
    unfold Divs.withText
    split <;> rfl
  induction f generalizing before with
  | nil => rw [joined, withText]
  | text s rest ih => rw [joined, ih, values]
  | div marks inner rest ihi ihr => rw [joined, withText, values, values, ihi, ihr]

end Divs

end PagePreview

namespace PagePreview.Markup
open Text JsxTree

namespace CharRef

theorem byName_escape {name : String} {value : List Char} (mem : (name, value) ∈ escapes) :
    byName.get? name = some value := by
  rw [Std.HashMap.get?_eq_getElem?, byName]
  exact Std.HashMap.getElem?_insertMany_list_of_mem (beq_self_eq_true name) (by decide) mem

theorem read_named {name value : List Char} (inAttribute : Bool)
    (mem : (String.ofList (name ++ [';']), value) ∈ escapes) (letters : name.all isAlphanumeric = true)
    (short : name.length < longestName) (rest : List Char) :
    read inAttribute (name ++ ';' :: rest) = (value, rest) := by
  have run : (name ++ ';' :: rest).takeWhile isAlphanumeric = name := by
    rw [List.takeWhile_append_of_pos (List.all_eq_true.mp letters), List.takeWhile_cons_of_neg (by decide),
      List.append_nil]
  have found : longest? byName.get? (name ++ ';' :: rest) (name.length + 1) = some (value, ';', rest) := by
    have split : name ++ ';' :: rest = (name ++ [';']) ++ rest := by simp
    have taken : (name ++ ';' :: rest).take (name.length + 1) = name ++ [';'] := by
      rw [split, List.take_left' (by simp)]
    have dropped : (name ++ ';' :: rest).drop (name.length + 1) = rest := by
      rw [split, List.drop_left' (by simp)]
    rw [longest?, taken, byName_escape mem, dropped, List.getLast?_concat]
    simp only [Option.getD_some]
  have named : named? inAttribute (name ++ ';' :: rest) = some (value, rest) := by
    rw [named?, run, Nat.min_eq_left short, found]
    simp
  unfold read
  split
  · rename_i c digits whole
    cases name with
    | nil => cases whole
    | cons d name =>
      obtain ⟨rfl, -⟩ := List.cons.inj whole
      simp [isAlphanumeric, isAsciiLetter, isAsciiDigit] at letters
  · rw [named]
    rfl

/-- What stands for a character in escaped markup is the character, or a reference to it. -/
theorem entity_cases (c : Char) : (entity c = [c] ∧ c ∉ ['&', '<', '"']) ∨
    ∃ reference, entity c = '&' :: reference ∧
      ∀ inAttribute rest, read inAttribute (reference ++ rest) = ([c], rest) := by
  have named (name : List Char) (c : Char) (mem : (String.ofList (name ++ [';']), [c]) ∈ escapes)
      (letters : name.all isAlphanumeric = true) (short : name.length < longestName) (inAttribute : Bool)
      (rest : List Char) : read inAttribute ((name ++ [';']) ++ rest) = ([c], rest) := by
    rw [List.append_assoc]
    exact read_named inAttribute mem letters short rest
  unfold entity
  split
  · exact .inr ⟨_, rfl, named ['a', 'm', 'p'] '&' (by decide) (by decide) (by decide)⟩
  · exact .inr ⟨_, rfl, named ['l', 't'] '<' (by decide) (by decide) (by decide)⟩
  · exact .inr ⟨_, rfl, named ['g', 't'] '>' (by decide) (by decide) (by decide)⟩
  · exact .inr ⟨_, rfl, named ['q', 'u', 'o', 't'] '"' (by decide) (by decide) (by decide)⟩
  · exact .inr ⟨_, rfl, fun _ _ => rfl⟩
  · left
    simp_all

theorem entity_ne_nil (c : Char) : entity c ≠ [] := by
  obtain ⟨same, -⟩ | ⟨_, same, -⟩ := entity_cases c <;> simp [same]

end CharRef

def markAttribute (m : Divs.Mark × String) : Attribute := ⟨m.1.name, m.2⟩

def divTag (marks : List (Divs.Mark × String)) : Tag := ⟨"div", marks.map markAttribute, false⟩

namespace Lexer

theorem length_le_flatMap {α β : Type} {f : α → List β} (some_there : ∀ a, f a ≠ []) (l : List α) :
    l.length ≤ (l.flatMap f).length := by
  induction l with
  | nil => exact Nat.le_refl 0
  | cons a l ih =>
    have := List.length_pos_iff.mpr (some_there a)
    rw [List.flatMap_cons, List.length_append, List.length_cons]
    omega

theorem quotedValue_escaped (value : List Char) (held : '\x00' ∉ value) (rest : List Char) {fuel : Nat}
    (enough : value.length < fuel) :
    quotedValue '"' fuel (value.flatMap entity ++ '"' :: rest) = some (value, rest) := by
  induction value generalizing fuel with
  | nil =>
    obtain _ | fuel := fuel
    · cases enough
    · rfl
  | cons c value ih =>
    obtain _ | fuel := fuel
    · cases enough
    rw [List.mem_cons, not_or] at held
    have more := ih held.2 (Nat.lt_of_succ_lt_succ enough)
    rw [List.flatMap_cons, List.append_assoc]
    obtain ⟨plain, apart⟩ | ⟨reference, same, read⟩ := CharRef.entity_cases c
    · simp only [List.mem_cons, List.not_mem_nil, or_false, not_or] at apart
      have stays : plainChar c = c := if_neg (Ne.symm held.1)
      rw [plain, List.singleton_append, quotedValue, if_neg apart.2.2, if_neg apart.1, more, stays]
      rfl
    · rw [same, List.cons_append, quotedValue, if_neg (by decide), if_pos rfl, read]
      dsimp only
      rw [more]
      rfl

theorem attributeValue_mark (value : String) (held : '\x00' ∉ value.toList) (rest : List Char) :
    attributeValue ('=' :: '"' :: Divs.escapedChars value ++ '"' :: rest) = some (value.toList, rest) := by
  have enough : value.toList.length < (Divs.escapedChars value ++ '"' :: rest).length + 1 := by
    have shorter := length_le_flatMap CharRef.entity_ne_nil value.toList
    rw [List.length_append, Divs.escapedChars]
    omega
  exact quotedValue_escaped value.toList held rest enough

theorem attributes_value {c : Char} {name value s rest : List Char} {found : List Attribute} {fuel : Nat}
    (letters : (c :: name).all (!isNameEnd ·) = true) (kept : (c :: name).map nameChar = c :: name)
    (read : attributeValue ('=' :: s) = some (value, rest)) :
    attributes (fuel + 1) found (' ' :: c :: name ++ '=' :: s) =
      attributes fuel (addAttribute found (c :: name) value) rest := by
  obtain ⟨first, letters⟩ := Bool.and_eq_true_iff.mp letters
  simp only [isNameEnd, Bool.not_eq_true', Bool.or_eq_false_iff, decide_eq_false_iff_not] at first
  have skipped : (' ' :: c :: name ++ '=' :: s).dropWhile isSpace = c :: (name ++ '=' :: s) := by
    rw [List.cons_append, List.dropWhile_cons_of_pos rfl, List.cons_append,
      List.dropWhile_cons_of_neg (by simp [first])]
  have name_read : (name ++ '=' :: s).takeWhile (fun d => !isNameEnd d) = name := by
    rw [List.takeWhile_append_of_pos (by simpa using letters), List.takeWhile_cons_of_neg (by decide),
      List.append_nil]
  have name_left : (name ++ '=' :: s).dropWhile (fun d => !isNameEnd d) = '=' :: s := by
    rw [List.dropWhile_append_of_pos (by simpa using letters), List.dropWhile_cons_of_neg (by decide)]
  rw [attributes, skipped]
  split
  · rename_i ended
    cases ended
  · rename_i ended
    exact absurd (List.cons.inj ended).1 first.1.2
  · rename_i closed
    exact absurd (List.cons.inj closed).1 first.1.1.2
  · rename_i closed
    exact absurd (List.cons.inj closed).1 first.1.1.2
  · rename_i whole
    obtain ⟨rfl, rfl⟩ := List.cons.inj whole
    dsimp only
    rw [name_read, name_left, read, kept]

theorem attributes_marks (marks : List (Divs.Mark × String)) (held : ∀ m ∈ marks, Divs.IsHeld m.2)
    {found : List Attribute} (distinct : (found.map (·.name) ++ marks.map (·.1.name)).Nodup) (rest : List Char)
    {fuel : Nat} (enough : marks.length < fuel) :
    attributes fuel found (marks.flatMap Divs.markChars ++ '>' :: rest) =
      some (found ++ marks.map markAttribute, false, rest) := by
  induction marks generalizing found fuel with
  | nil =>
    obtain _ | fuel := fuel
    · cases enough
    rw [List.map_nil, List.append_nil]
    rfl
  | cons m marks ih =>
    obtain _ | fuel := fuel
    · cases enough
    obtain ⟨kind, value⟩ := m
    rw [List.forall_mem_cons] at held
    have fresh : found.any (·.name == kind.name) = false := by
      rw [List.map_cons, List.nodup_append] at distinct
      refine List.any_eq_false.mpr fun a mem => ?_
      rw [beq_iff_eq]
      exact distinct.2.2 a.name (List.mem_map_of_mem mem) kind.name List.mem_cons_self
    have added : addAttribute found kind.name.toList value.toList = found ++ [markAttribute (kind, value)] := by
      rw [addAttribute, String.ofList_toList, String.ofList_toList, fresh]
      rfl
    have rest_distinct : ((found ++ [markAttribute (kind, value)]).map (·.name) ++ marks.map (·.1.name)).Nodup := by
      simpa [markAttribute] using distinct
    have one (s : List Char) : attributes (fuel + 1) found (Divs.markChars (kind, value) ++ s) =
        attributes fuel (addAttribute found kind.name.toList value.toList) s := by
      have given := attributeValue_mark value held.1.1 s
      simp only [Divs.markChars, List.append_assoc, List.cons_append, List.nil_append] at given ⊢
      cases kind <;> exact attributes_value (by decide) (by decide) given
    have more := ih held.2 rest_distinct (Nat.lt_of_succ_lt_succ enough)
    rw [List.flatMap_cons, List.append_assoc, one, added, more, List.append_assoc, List.map_cons,
      List.singleton_append]

theorem tag?_div (marks : Divs.Marks) (held : ∀ m ∈ marks.list, Divs.IsHeld m.2) (rest : List Char) :
    tag? ('d' :: 'i' :: 'v' :: (marks.list.flatMap Divs.markChars ++ '>' :: rest)) =
      some (divTag marks.list, rest) := by
  obtain ⟨c, more, tail, ends⟩ : ∃ c more,
      marks.list.flatMap Divs.markChars ++ '>' :: rest = c :: more ∧ isTagNameEnd c = true := by
    cases marks.list with
    | nil => exact ⟨'>', rest, rfl, rfl⟩
    | cons m marks => exact ⟨' ', _, rfl, rfl⟩
  have name_read : ('d' :: 'i' :: 'v' :: c :: more).takeWhile (fun d => !isTagNameEnd d) = ['d', 'i', 'v'] := by
    simp [ends, show isTagNameEnd 'd' = false from rfl, show isTagNameEnd 'i' = false from rfl,
      show isTagNameEnd 'v' = false from rfl]
  have name_left : ('d' :: 'i' :: 'v' :: c :: more).dropWhile (fun d => !isTagNameEnd d) = c :: more := by
    simp [ends, show isTagNameEnd 'd' = false from rfl, show isTagNameEnd 'i' = false from rfl,
      show isTagNameEnd 'v' = false from rfl]
  have distinct : (([] : List Attribute).map (·.name) ++ marks.list.map (·.1.name)).Nodup := marks.names_nodup
  have enough : marks.list.length < ('d' :: 'i' :: 'v' :: c :: more).length + 1 := by
    have shorter := length_le_flatMap (f := Divs.markChars) (by simp [Divs.markChars]) marks.list
    have whole := congrArg List.length tail
    rw [List.length_append, List.length_cons, List.length_cons] at whole
    rw [List.length_cons, List.length_cons, List.length_cons, List.length_cons]
    omega
  have read := attributes_marks marks.list held distinct rest enough
  rw [tail] at read ⊢
  rw [tag?, name_read, name_left, read]
  rfl

variable {last : String} {rest : List Char}

theorem next_entity (c : Char) : next ⟨entity c ++ rest, .data, last⟩ false = ([.char c], ⟨rest, .data, last⟩) := by
  obtain ⟨plain, apart⟩ | ⟨reference, same, read⟩ := CharRef.entity_cases c
  · simp only [List.mem_cons, List.not_mem_nil, or_false, not_or] at apart
    simp only [plain, List.singleton_append, next]
    rw [if_neg apart.1, if_neg apart.2.1]
  · have referred : next ⟨'&' :: (reference ++ rest), .data, last⟩ false =
        ((CharRef.read false (reference ++ rest)).1.map .char,
          ⟨(CharRef.read false (reference ++ rest)).2, .data, last⟩) := rfl
    rw [same, List.cons_append, referred, read]
    rfl

theorem next_markup (s : List Char) :
    next ⟨'<' :: s, .data, last⟩ false = ((markup false s).1, ⟨(markup false s).2, .data, last⟩) := rfl

theorem next_start (marks : Divs.Marks) (held : ∀ m ∈ marks.list, Divs.IsHeld m.2) :
    next ⟨Divs.startChars marks.list ++ rest, .data, last⟩ false =
      ([.startTag (divTag marks.list)], ⟨rest, .data, last⟩) := by
  have chars : Divs.startChars marks.list ++ rest =
      '<' :: 'd' :: 'i' :: 'v' :: (marks.list.flatMap Divs.markChars ++ '>' :: rest) := by
    simp [Divs.startChars]
  have opens {s rest : List Char} {tag : Tag} (read : tag? ('d' :: s) = some (tag, rest)) :
      markup false ('d' :: s) = ([.startTag tag], rest) := by
    simp [markup, show isAsciiLetter 'd' = true from rfl, read]
  rw [chars, next_markup, opens (tag?_div marks held _)]

theorem next_end : next ⟨Divs.endChars ++ rest, .data, last⟩ false = ([.endTag "div"], ⟨rest, .data, last⟩) := by
  have chars : Divs.endChars ++ rest = '<' :: '/' :: 'd' :: 'i' :: 'v' :: ([].flatMap Divs.markChars ++ '>' :: rest) :=
    rfl
  have closes {s rest : List Char} {tag : Tag} (read : tag? ('d' :: s) = some (tag, rest)) :
      markup false ('/' :: 'd' :: s) = ([.endTag tag.name], rest) := by
    simp [markup, show isAsciiLetter 'd' = true from rfl, read]
  rw [chars, next_markup, closes (tag?_div ⟨[], List.nodup_nil⟩ (by simp) _)]
  rfl

theorem next_nil : next ⟨[], .data, last⟩ false = ([.eof], ⟨[], .data, last⟩) := rfl

end Lexer
end PagePreview.Markup
