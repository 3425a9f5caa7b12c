import PagePreview.Proofs.Exports

/-!
# The items of a module

A module is a stack of items: code, exported declarations, lists of names and stars. Each of the four
passes that remove exports settles the items of one kind and leaves the others to the later passes,
so what is left of a module is the stack of what is left of its items.
-/

namespace PagePreview
open Text Matcher Statement

namespace Item

/-- An exported declaration: its first word, and all that follows. -/
structure Declaration where
  word : String
  rest : List Char
  known : word ∈ Entry.declarationWords
  stops : rest.head?.any isWord = false
  free : FreeInside rest
  noList : word = "type" → ∃ gap c more, rest = gap ++ c :: more ∧ Blank gap ∧
    isBlank c = false ∧ c ≠ '\x7b'

/-- Neither a brace inside a list nor a quote in the name of its module ends it too early. -/
def Whole (inner : List Char) (origin : Option Origin) : Prop :=
  '\x7d' ∉ inner ∧ ∀ o, origin = some o → o.Plain

structure Names where
  isType : Bool
  inner : List Char
  origin : Option Origin
  contained : ¬Whole inner origin → FreeInside inner ∧ ∀ front back, inner = front ++ '\x7d' :: back →
    '\x7d' ∉ front → ∀ gap more, Blank gap → back ≠ gap ++ ("from".toList ++ more)

structure Star where
  name : Option (List Char)
  origin : Origin
  declared : ∀ n, name = some n → IsDeclaredName n

end Item

inductive Item
  | code (text : List Char) (free : Free ExportLed text)
  | declaration (declaration : Item.Declaration)
  | names (names : Item.Names)
  | star (star : Item.Star)

namespace Item

variable {i : Item} {b : Option Char} {s u : List Char}

def text : Item → List Char
  | code t _ => t
  | declaration d => exported (d.word.toList ++ d.rest)
  | names l => exported (braced l.isType l.inner l.origin)
  | star x => exported (starred x.name x.origin)

def left : Item → List Char
  | code t _ => t
  | declaration d => d.word.toList ++ d.rest
  | names _ | star _ => []

def Readable : Item → Prop
  | code .. | declaration _ => True
  | names l => Whole l.inner l.origin
  | star x => x.origin.Plain

/-- What the passes can make of an item: its export is removed, or it ends too early, and then some
of it is left. -/
inductive Done (i : Item) : List Char → Prop
  | read : i.Readable → Done i i.left
  | kept : ¬i.Readable → Done i i.text
  | cut {u : List Char} : ¬i.Readable → u ≠ [] → Free ExportLed u → Done i u

def Listed (i : Item) (u : List Char) : Prop :=
  match i with
  | names _ => Done i u
  | _ => u = i.text

def Starred (i : Item) (u : List Char) : Prop :=
  match i with
  | names _ | star _ => Done i u
  | _ => u = i.text

theorem free_nil : Free ExportLed [] := (freeInside_unbroken List.not_mem_nil).free
  (not_exportLed_of_line rfl)

theorem Declaration.unbroken (d : Declaration) : '\n' ∉ d.word.toList :=
  (unbroken_putWords (mem_putWords d.known)).2.noBreak

theorem Declaration.stops_append (d : Declaration) (ends : firstLine s = []) :
    (d.rest ++ s).head?.any isWord = false := by
  have stops := d.stops
  cases rest : d.rest with
  | nil =>
    rcases line_cases ends with rfl | ⟨rest, rfl⟩
    · rfl
    · exact (by decide : isWord '\n' = false)
  | cons c more =>
    rw [rest] at stops
    exact stops

theorem closing_unbroken (origin : Option Origin) :
    '\n' ∉ '\x7d' :: (originText origin ++ [';']) := by
  cases origin with
  | none => decide
  | some o =>
    have feed : o.quote ≠ '\n' := by
      rcases o.quote_cases with same | same <;> rw [same] <;> decide
    simp [originText, Origin.text_eq, o.unbroken, feed.symm]

theorem noneInside_braced {P : List Char → Prop} {isType : Bool} {inner : List Char}
    {origin : Option Origin} (none : NoneInside P inner)
    (shorter : ∀ t, P (t ++ '\x7d' :: (originText origin ++ [';'])) → P t) (empty : ¬P []) :
    NoneInside P (exported (braced isType inner origin)) := by
  have opening : '\n' ∉ exported ((if isType then "type".toList ++ [' '] else []) ++ ['\x7b']) := by
    cases isType <;> decide
  have whole := (none.append (closing_unbroken origin) shorter empty).prepend opening
  have shape : exported ((if isType then "type".toList ++ [' '] else []) ++ ['\x7b']) ++
      (inner ++ '\x7d' :: (originText origin ++ [';'])) = exported (braced isType inner origin) := by
    simp [exported_eq, braced]
  rwa [shape] at whole

theorem Star.unbroken (x : Star) : '\n' ∉ starred x.name x.origin := by
  have feed : x.origin.quote ≠ '\n' := by
    rcases x.origin.quote_cases with same | same <;> rw [same] <;> decide
  cases named : x.name with
  | none => simp [starred, Origin.text_eq, x.origin.unbroken, feed.symm]
  | some n =>
    simp [starred, Origin.text_eq, x.origin.unbroken, feed.symm, (x.declared n named).noBreak]

theorem left_free (i : Item) (readable : i.Readable) : Free ExportLed i.left := by
  match i with
  | code t free => exact free
  | declaration d =>
    refine (d.free.prepend d.unbroken).free ?_
    rintro ⟨indent, rest, parts, hi, stops⟩
    obtain ⟨c, more, word, letter⟩ := declarationWord_eq d.known
    have whole : d.word.toList ++ d.rest = indent ++ ("export".toList ++ rest) := parts
    have letters : c :: (more ++ d.rest) = indent ++ ("export".toList ++ rest) := by
      rwa [word] at whole
    obtain rfl : indent = [] := run_eq_nil hi.blank (not_isBlank_of_isWord letter) letters.symm
    obtain ⟨same, -⟩ := word_eq_of_append (declarationWord_letters d.known)
      (List.all_eq_true.mp rfl) d.stops stops whole
    exact absurd (same ▸ d.known) (by decide)
  | names l => exact free_nil
  | star x => exact free_nil

section Done

variable {α : Type} {m : Matcher α} {f : α → List Char → List Char} (led : LineLed "export" m)

include led

theorem Done.leaves (done : Done i u) (kept : ¬i.Readable → Leaves m f i.text (Done i)) :
    Leaves m f u (Done i) := by
  cases done with
  | read readable =>
    refine (leaves_unled led (left_free i readable)).mono ?_
    rintro _ rfl
    exact .read readable
  | kept other => exact kept other
  | cut other some free =>
    refine (leaves_unled led free).mono ?_
    rintro _ rfl
    exact .cut other some free

end Done

theorem Names.opens (l : Names) : ∃ c t, braced l.isType l.inner l.origin = c :: t ∧
    isBlank c = false ∧ c ≠ '*' ∧ c ≠ 'd' := by
  cases l.isType with
  | false => exact ⟨'\x7b', _, rfl, by decide, by decide, by decide⟩
  | true => exact ⟨'t', _, rfl, by decide, by decide, by decide⟩

theorem Declaration.no_list (d : Declaration) (ends : firstLine s = []) :
    Entry.exportList.first? ⟨b, exported (d.word.toList ++ d.rest) ++ s⟩ = none := by
  refine first?_eq_none fun w q way => ?_
  obtain ⟨c, more, word, letter⟩ := declarationWord_eq d.known
  rw [exported_append, word] at way
  obtain ⟨type, inner, rest, parts, rfl | ⟨g, rfl, hg, some⟩, -⟩ :=
    exportList_opens (not_isBlank_of_isWord letter) way
  · obtain ⟨rfl, -⟩ := List.cons.inj parts
    cases letter
  · have same : d.word.toList ++ (d.rest ++ s) =
        "type".toList ++ (g ++ '\x7b' :: (inner ++ '\x7d' :: rest)) := by
      rw [word]
      simpa using parts
    obtain ⟨isType, behind⟩ := word_eq_of_append (declarationWord_letters d.known)
      (declarationWord_letters (by decide)) (d.stops_append ends) (head?_of_blanks some hg) same
    obtain ⟨gap, e, more, whole, blank, solid, other⟩ := d.noList isType
    rw [whole, List.append_assoc] at behind
    exact other (blank.eq_of_append hg solid (by decide) behind).2.1

theorem Names.leaves_whole (l : Names) (whole : Whole l.inner l.origin) :
    Leaves Entry.exportList (fun _ _ => []) (names l).text (Done (names l)) := by
  intro b s start ends
  have found : Entry.exportList.first? ⟨b, (names l).text ++ s⟩ = some ((), ⟨some ';', s⟩) :=
    first?_braced whole.1 whole.2 start ends
  exact ⟨[], .read whole, write_whole exportList_led (by simp [text, exported_eq]) ends found⟩

theorem Names.freeInside (l : Names) (early : ¬Whole l.inner l.origin) :
    FreeInside (names l).text :=
  have stops : Stops ('\x7d' :: (originText l.origin ++ [';'])) :=
    (by decide : (isWord '\x7d' || isInlineBlank '\x7d') = false)
  noneInside_braced (l.contained early).1 (fun _ led => led.of_append stops)
    (not_exportLed_of_line rfl)

/-- The list pass leaves some of a list that ends too early, and may remove what it reads of it. -/
theorem Names.leaves_early (l : Names) (early : ¬Whole l.inner l.origin) :
    Leaves Entry.exportList (fun _ _ => []) (names l).text (Done (names l)) := by
  have inside : FreeInside (exported (braced l.isType l.inner l.origin)) := l.freeInside early
  intro b s start ends
  cases found : Entry.exportList.first? ⟨b, (names l).text ++ s⟩ with
  | none => exact ⟨_, .kept early, write_unread exportList_led inside ends found⟩
  | some way =>
    obtain ⟨w, q⟩ := way
    have brace : '\x7d' ∈ l.inner := by
      by_contra braceless
      obtain ⟨o, origin, mixed⟩ : ∃ o, l.origin = some o ∧ ¬o.Plain := by
        by_contra plain
        push Not at plain
        exact early ⟨braceless, plain⟩
      rw [text, origin, braced_unread braceless mixed] at found
      cases found
    obtain ⟨front, back, whole, braceless⟩ := List.eq_append_cons_of_mem brace
    obtain ⟨run, rest, parts, ahead, some, more, line⟩ :=
      braced_cut braceless whole ((l.contained early).2 front back whole braceless)
        (mem_of_first? found)
    rw [parts] at inside
    have whole : (names l).text = run ++ rest := parts
    have here : q = ⟨q.behind, rest ++ s⟩ := by rw [← ahead]
    rw [whole, here, List.append_assoc] at found
    refine ⟨rest, .cut early more (inside.of_append.free (not_exportLed_of_line line)), ?_⟩
    rw [whole]
    exact write_hit exportList_led some (fun _ => inside) ends found

theorem listed_leaves (i : Item) :
    Leaves Entry.exportList (fun _ _ => []) i.text (Listed i) := by
  have led := exportList_led
  match i with
  | code t free => exact leaves_unled led free
  | declaration d =>
    exact leaves_kept led (d.free.prepend d.unbroken).exported fun b s ends => d.no_list ends
  | names l =>
    by_cases whole : Whole l.inner l.origin
    · exact l.leaves_whole whole
    · exact l.leaves_early whole
  | star x =>
    refine leaves_kept led (freeInside_unbroken x.unbroken).exported fun b s ends => ?_
    exact exportList_unread (c := '*') (by decide) (by decide) (by decide)

theorem starred_leaves (i : Item) (u : List Char) (h : Listed i u) :
    Leaves Entry.exportStar (fun _ _ => []) u (Starred i) := by
  have led := exportStar_led
  match i with
  | code t free =>
    obtain rfl : u = t := h
    exact leaves_unled led free
  | declaration d =>
    obtain rfl : u = (declaration d).text := h
    refine leaves_kept led (d.free.prepend d.unbroken).exported fun b s ends => ?_
    obtain ⟨c, more, word, letter⟩ := declarationWord_eq d.known
    rw [text, exported_append, word]
    refine exportStar_unread (not_isBlank_of_isWord letter) ?_
    rintro rfl
    cases letter
  | names l =>
    refine Done.leaves led h fun early => (leaves_kept led (l.freeInside early)
      fun b s ends => ?_).mono ?_
    · obtain ⟨c, t, opens, blank, other, -⟩ := l.opens
      rw [text, exported_append, opens]
      exact exportStar_unread blank other
    · rintro _ rfl
      exact .kept early
  | star x =>
    obtain rfl : u = (star x).text := h
    by_cases plain : x.origin.Plain
    · intro b s start ends
      have found : Entry.exportStar.first? ⟨b, (star x).text ++ s⟩ = some ((), ⟨some ';', s⟩) :=
        first?_starred x.declared plain start ends
      exact ⟨[], .read plain, write_whole led (by simp [text, exported_eq]) ends found⟩
    · refine (leaves_kept led (freeInside_unbroken x.unbroken).exported
        fun b s ends => starred_unread x.declared plain).mono ?_
      rintro _ rfl
      exact .kept plain

theorem leaves_declared {w : String} {rest : List Char} (known : w ∈ Entry.declarationWords)
    (stops : ∀ s, firstLine s = [] → (rest ++ s).head?.any isWord = false) (free : FreeInside rest) :
    Leaves Entry.exportDeclaration (fun (indent, first) _ => indent.text ++ first.text)
      (exported (w.toList ++ rest)) (· = w.toList ++ rest) := by
  intro b s start ends
  refine ⟨_, rfl, ?_⟩
  obtain ⟨⟨indent, first⟩, c, found, word⟩ :=
    first?_declared (s := rest ++ s) known (stops s ends) start
  have unbroken : '\n' ∉ exported w.toList := by
    simpa [exported_eq] using (unbroken_putWords (mem_putWords known)).2.noBreak
  rw [← exported_append] at found
  have written := write_hit (f := fun (indent, first) _ => indent.text ++ first.text)
    exportDeclaration_led (by simp [exported_eq]) (fun _ => free.prepend unbroken) ends found
  rw [exported_append] at written
  dsimp only at written word ⊢
  rw [written, word]

theorem declared_leaves (i : Item) (u : List Char) (h : Starred i u) :
    Leaves Entry.exportDeclaration (fun (indent, first) _ => indent.text ++ first.text) u
      (Done i) := by
  have led := exportDeclaration_led
  match i with
  | code t free =>
    obtain rfl : u = t := h
    refine (leaves_unled led free).mono ?_
    rintro _ rfl
    exact .read (i := code _ free) trivial
  | declaration d =>
    obtain rfl : u = (declaration d).text := h
    refine (leaves_declared d.known (fun s ends => d.stops_append ends) d.free).mono ?_
    rintro _ rfl
    exact .read (i := declaration d) trivial
  | names l =>
    refine Done.leaves led h fun early => ?_
    have inside := l.freeInside early
    cases type : l.isType with
    | false =>
      refine (leaves_kept led inside fun b s ends => ?_).mono ?_
      · rw [text, type]
        exact exportDeclaration_unread (c := '\x7b') (by decide) (by decide)
      · rintro _ rfl
        exact .kept early
    | true =>
      -- the third pass takes a list of types for a declaration of one
      have opens : (names l).text = exported ("type".toList ++ ([' '] ++ '\x7b' :: (l.inner ++
          '\x7d' :: (originText l.origin ++ [';'])))) := by
        rw [text, type]
        rfl
      rw [opens, ← exported_append] at inside
      rw [opens]
      refine (leaves_declared (by decide) (fun _ _ => by simp; decide) inside.of_append).mono ?_
      rintro _ rfl
      have free := inside.of_append.prepend (s := "type".toList) (by decide)
      exact .cut early (by simp) (free.free (not_exportLed (c := 't') (by decide) (by decide)))
  | star x =>
    refine Done.leaves led h fun mixed => (leaves_kept led (freeInside_unbroken x.unbroken).exported
      fun b s ends => ?_).mono ?_
    · exact exportDeclaration_unread (c := '*') (by decide) (by decide)
    · rintro _ rfl
      exact .kept mixed

theorem done_leaves (i : Item) (u : List Char) (h : Done i u) :
    Leaves Entry.leftoverDefault Entry.neutralise u (Done i) := by
  have led := leftoverDefault_led
  refine Done.leaves led h fun other => ?_
  match i with
  | code .. | declaration _ => exact absurd trivial other
  | names l =>
    refine (leaves_kept led (l.freeInside other) fun b s ends => ?_).mono ?_
    · obtain ⟨c, t, opens, blank, -, letter⟩ := l.opens
      rw [text, exported_append, opens]
      exact leftoverDefault_unread blank letter
    · rintro _ rfl
      exact .kept other
  | star x =>
    refine (leaves_kept led (freeInside_unbroken x.unbroken).exported fun b s ends => ?_).mono ?_
    · exact leftoverDefault_unread (c := '*') (by decide) (by decide)
    · rintro _ rfl
      exact .kept other

theorem stripExports_stacked (items : List Item) :
    ∃ us, List.Forall₂ Done items us ∧
      Entry.stripExports (stacked (items.map text)) = stacked us := by
  have start : List.Forall₂ (fun i t => t = text i) items (items.map text) := by
    rw [List.forall₂_map_right_iff]
    exact List.forall₂_same.mpr fun _ _ => rfl
  obtain ⟨lists, hlists, listed⟩ := rewrite_stacked (Q := Listed) exportList_led
    (fun i t same => same ▸ listed_leaves i) start
  obtain ⟨stars, hstars, starred⟩ := rewrite_stacked exportStar_led starred_leaves hlists
  obtain ⟨ds, hds, declared⟩ := rewrite_stacked exportDeclaration_led declared_leaves hstars
  obtain ⟨us, hus, neutral⟩ := rewrite_stacked leftoverDefault_led done_leaves hds
  refine ⟨us, hus, ?_⟩
  have first : Entry.exportList.erase (stacked (items.map text)) = stacked lists := listed
  have second : Entry.exportStar.erase (stacked lists) = stacked stars := starred
  rw [Entry.stripExports, first, second]
  exact (congrArg (Entry.leftoverDefault.rewrite Entry.neutralise) declared).trans neutral

theorem Done.eq_left (done : Done i u) (readable : i.Readable) : u = i.left := by
  cases done with
  | read => rfl
  | kept other => exact absurd readable other
  | cut other => exact absurd readable other

theorem Done.ne_nil (done : Done i u) (other : ¬i.Readable) : i.left = [] ∧ u ≠ [] := by
  have removed : i.left = [] ∧ i.text ≠ [] := by
    match i with
    | code .. | declaration _ => exact absurd trivial other
    | names l => exact ⟨rfl, by simp [text, exported_eq]⟩
    | star x => exact ⟨rfl, by simp [text, exported_eq]⟩
  cases done with
  | read readable => exact absurd readable other
  | kept => exact removed
  | cut _ some => exact ⟨removed.1, some⟩

theorem Done.length_le (done : Done i u) : i.left.length ≤ u.length := by
  by_cases readable : i.Readable
  · exact Nat.le_of_eq (congrArg List.length (done.eq_left readable)).symm
  · rw [(done.ne_nil readable).1]
    exact Nat.zero_le _

theorem length_linesOf_le {items : List Item} {us : List (List Char)}
    (done : List.Forall₂ Done items us) :
    (linesOf (items.map left)).length ≤ (linesOf us).length := by
  induction done with
  | nil => exact Nat.le_refl 0
  | @cons i u items us here _ ih =>
    have shorter := here.length_le
    simp only [linesOf, List.map_cons, List.flatMap_cons, List.length_append,
      List.length_cons] at ih ⊢
    omega

theorem linesOf_eq_iff {items : List Item} {us : List (List Char)}
    (done : List.Forall₂ Done items us) :
    linesOf us = linesOf (items.map left) ↔ ∀ i ∈ items, i.Readable := by
  induction done with
  | nil => simp [linesOf]
  | @cons i u items us here rest ih =>
    rw [List.forall_mem_cons, ← ih]
    have shape : ∀ (t : List Char) ts, linesOf (t :: ts) = '\n' :: (t ++ linesOf ts) :=
      fun _ _ => rfl
    rw [List.map_cons, shape, shape]
    constructor
    · intro same
      have whole := (List.cons.inj same).2
      have readable : i.Readable := by
        by_contra other
        obtain ⟨none, some⟩ := here.ne_nil other
        have longer := length_linesOf_le rest
        have lengths := congrArg List.length whole
        have nonempty := List.length_pos_of_ne_nil some
        rw [none, List.length_append, List.length_append, List.length_nil] at lengths
        omega
      rw [here.eq_left readable] at whole
      exact ⟨readable, List.append_cancel_left whole⟩
    · rintro ⟨readable, same⟩
      rw [here.eq_left readable, same]

/-- All items are as they should be without their exports exactly if none of them ends too early. -/
theorem stacked_eq_iff {items : List Item} {us : List (List Char)}
    (done : List.Forall₂ Done items us) :
    stacked us = stacked (items.map left) ↔ ∀ i ∈ items, i.Readable := by
  rw [← linesOf_eq_iff done]
  cases done with
  | nil => simp [linesOf]
  | cons =>
    rw [linesOf_eq (List.cons_ne_nil _ _), List.map_cons, linesOf_eq (List.cons_ne_nil _ _)]
    simp

end Item

end PagePreview
