import PagePreview.Proofs.Payload
import PagePreview.Proofs.Text.Edit
import PagePreview.Proofs.Text.Preferred
import PagePreview.Proofs.Weight
import Mathlib.Data.Bool.AllAny

/-!
# Islands however they are spelled

The blanks of an island, its flags and its quotes can be chosen freely. Between texts that begin no
style tag, each spelling becomes the element that carries the CSS, and the passes that come later
leave that element as it is.
-/

namespace PagePreview.StyleIsland
open Text Matcher

def Opens (s : List Char) : Prop := "<style".toList <+: s

theorem style_cons : "<style".toList = '<' :: "style".toList := rfl

def StyleFree (s : List Char) : Prop := ¬"<style".toList <:+: s

theorem StyleFree.not_opens {s front back : List Char} (h : StyleFree s) (parts : s = front ++ back) :
    ¬Opens back := by
  rintro ⟨rest, rfl⟩
  exact h ⟨front, rest, by rw [parts, List.append_assoc]⟩

theorem styleFree_of_holds {s : List Char} (h : holds "<style".toList s = false) : StyleFree s := by
  intro inside
  rw [holds_iff.mpr inside] at h
  cases h

theorem Opens.within {front t : List Char} (nonempty : front ≠ []) (h : Opens (front ++ '<' :: t)) :
    Opens front := by
  obtain ⟨rest, parts⟩ := h
  rcases List.append_eq_append_iff.mp parts with ⟨more, whole, -⟩ | ⟨cut, whole, more⟩
  · exact ⟨more, whole.symm⟩
  · cases cut with
    | nil => exact ⟨[], by simpa using whole⟩
    | cons d cut =>
      obtain ⟨rfl, -⟩ := List.cons.inj more
      obtain ⟨e, front, rfl⟩ := List.exists_cons_of_ne_nil nonempty
      rw [style_cons, List.cons_append] at whole
      have inside : "style".toList = front ++ '<' :: cut := (List.cons.inj whole).2
      have member : '<' ∈ "style".toList := by rw [inside]; simp
      exact absurd member (by decide)

theorem place_of_opens {before t front back : List Char} (hb : StyleFree before) (ht : StyleFree t)
    (parts : before ++ '<' :: t = front ++ back) (opens : Opens back) :
    front = before ∧ back = '<' :: t := by
  rcases List.append_eq_append_iff.mp parts with ⟨more, rfl, rest⟩ | ⟨cut, rfl, rfl⟩
  · cases more with
    | nil => exact ⟨by simp, rest.symm⟩
    | cons d more =>
      obtain ⟨-, inside⟩ := List.cons.inj rest
      exact absurd opens (ht.not_opens inside)
  · rcases eq_or_ne cut [] with rfl | nonempty
    · exact ⟨by simp, rfl⟩
    · exact absurd (opens.within nonempty) (hb.not_opens rfl)

theorem StyleFree.append {s t : List Char} (hs : StyleFree s) (ht : StyleFree t)
    (seam : ∀ c, t.head? = some c → c ∉ "style".toList) : StyleFree (s ++ t) := by
  rintro ⟨front, rest, parts⟩
  rw [List.append_assoc] at parts
  rcases List.append_eq_append_iff.mp parts with ⟨more, rfl, inside⟩ | ⟨cut, rfl, inside⟩
  · rcases List.append_eq_append_iff.mp inside with ⟨more', rfl, -⟩ | ⟨cut, whole, rfl⟩
    · exact hs ⟨front, more', by simp⟩
    · cases cut with
      | nil => exact hs ⟨front, [], by simp [whole]⟩
      | cons d cut =>
        cases more with
        | nil => exact ht ⟨[], rest, by rw [whole]; rfl⟩
        | cons e more =>
          rw [style_cons, List.cons_append] at whole
          have letters : "style".toList = more ++ d :: cut := (List.cons.inj whole).2
          exact seam d rfl (by rw [letters]; simp)
  · exact ht ⟨cut, rest, by rw [inside, List.append_assoc]⟩

theorem StyleFree.behind {s t : List Char} (hs : '<' ∉ s) (ht : StyleFree t) : StyleFree (s ++ t) := by
  rintro ⟨front, rest, parts⟩
  rw [List.append_assoc] at parts
  rcases List.append_eq_append_iff.mp parts with ⟨more, rfl, inside⟩ | ⟨cut, rfl, inside⟩
  · cases more with
    | nil => exact ht ⟨[], rest, inside⟩
    | cons d more =>
      rw [style_cons, List.cons_append, List.cons_append] at inside
      obtain rfl : '<' = d := (List.cons.inj inside).1
      exact hs (by simp)
  · exact ht ⟨cut, rest, by rw [inside, List.append_assoc]⟩

variable {quote : Char} {run css w : List Char}

theorem Spells.prefix_of (h : Spells quote run css) (plain : '\\' ∉ w) (starts : w <+: run) : w <+: css := by
  induction h generalizing w with
  | nil => exact starts
  | plain _ _ _ ih =>
    cases w with
    | nil => exact List.nil_prefix
    | cons d w =>
      obtain ⟨rfl, further⟩ := List.cons_prefix_cons.mp starts
      exact List.cons_prefix_cons.mpr ⟨rfl, ih (fun member => plain (List.mem_cons_of_mem _ member)) further⟩
  | escaped =>
    cases w with
    | nil => exact List.nil_prefix
    | cons d w =>
      obtain ⟨rfl, -⟩ := List.cons_prefix_cons.mp starts
      exact absurd List.mem_cons_self plain

theorem Spells.infix_of (h : Spells quote run css) (plain : '\\' ∉ w) (nonempty : w ≠ [])
    (inside : w <:+: run) : w <:+: css := by
  induction h with
  | nil => exact inside
  | @plain c run css notSlash notQuote spelled ih =>
    rcases List.infix_cons_iff.mp inside with starts | inside
    · exact ((Spells.plain notSlash notQuote spelled).prefix_of plain starts).isInfix
    · exact (ih inside).trans (List.suffix_cons _ _).isInfix
  | @escaped c run css mark spelled ih =>
    rcases List.infix_cons_iff.mp inside with starts | inside
    · exact ((Spells.escaped mark spelled).prefix_of plain starts).isInfix
    · rcases List.infix_cons_iff.mp inside with starts | inside
      · obtain ⟨d, w, rfl⟩ := List.exists_cons_of_ne_nil nonempty
        obtain ⟨rfl, further⟩ := List.cons_prefix_cons.mp starts
        have found := spelled.prefix_of (fun member => plain (List.mem_cons_of_mem _ member)) further
        exact (List.cons_prefix_cons.mpr ⟨rfl, found⟩).isInfix
      · exact (ih inside).trans (List.suffix_cons _ _).isInfix

theorem Spells.styleFree (h : Spells quote run css) (free : StyleFree css) : StyleFree run :=
  fun inside => free (h.infix_of (by decide) (by decide) inside)

structure Gap where
  text : List Char
  blank : Blank text

structure WideGap extends Gap where
  nonempty : text ≠ []

def flagText (name : String) (isSet : Bool) : List Char :=
  name.toList ++ if isSet then "=\x7btrue\x7d".toList else []

/-- How an island is spelled around its payload. -/
structure Spelling where
  beforeJsx : WideGap
  setsJsx : Bool
  global : Option (WideGap × Bool)
  beforeClose : Gap
  beforeBrace : Gap
  beforePayload : Gap
  afterPayload : Gap
  afterBrace : Gap
  beforeEnd : Gap

namespace Spelling

def globalText (p : Spelling) : List Char :=
  p.global.elim [] fun (gap, isSet) => gap.text ++ flagText "global" isSet

def write (p : Spelling) (literal : List Char) : List Char :=
  "<style".toList ++ (p.beforeJsx.text ++ (flagText "jsx" p.setsJsx ++ (p.globalText ++
    (p.beforeClose.text ++ (">".toList ++ (p.beforeBrace.text ++ ("\x7b".toList ++
      (p.beforePayload.text ++ (literal ++ (p.afterPayload.text ++ ("\x7d".toList ++
        (p.afterBrace.text ++ ("</style".toList ++ (p.beforeEnd.text ++ ">".toList))))))))))))))

end Spelling

inductive Quoting
  | template
  | double
  | single

namespace Quoting

def literal (q : Quoting) (css : List Char) : List Char :=
  match q with
  | template => '\x60' :: (escape css ++ ['\x60'])
  | double => '"' :: (inQuotes '"' css ++ ['"'])
  | single => '\'' :: (inQuotes '\'' css ++ ['\''])

end Quoting

theorem stops_gap (gap : Gap) {c d : Char} (other : c ≠ d) (notBlank : isBlank d = false) (s : List Char) :
    (gap.text ++ c :: s).head? ≠ some d := by
  obtain ⟨text, blank⟩ := gap
  cases text with
  | nil => simpa using other
  | cons e text =>
    rintro same
    obtain rfl : e = d := by simpa using same
    have isBlank := blank e (by simp)
    rw [notBlank] at isBlank
    cases isBlank

theorem prefers_blanks (gap : Gap) {s : List Char} (stops : s.head?.any isBlank = false) :
    blanks.Prefers gap.text s fun _ => True := prefers_most gap.blank stops

theorem prefers_blanks1 (gap : WideGap) {s : List Char} (stops : s.head?.any isBlank = false) :
    blanks1.Prefers gap.text s fun _ => True := prefers_most1 gap.nonempty gap.blank stops

theorem prefers_flag (name : String) (isSet : Bool) {s : List Char} (ends : s.head? ≠ some '=') :
    (flag name).Prefers (flagText name isSet) s fun _ => True := by
  unfold flagText
  cases isSet with
  | true =>
    exact (prefers_text name _).bind fun _ _ => (prefers_text "=\x7btrue\x7d" s).opt.return
      fun _ _ => trivial
  | false =>
    refine (prefers_text name _).bind fun _ _ => (prefers_opt_none ?_).return fun _ _ => trivial
    intro b u q way
    obtain ⟨rest, parts, -⟩ := mem_text.mp way
    obtain rfl : s = _ := parts
    exact ends rfl

def Spelling.Closes (p : Spelling) (s : List Char) : Prop := ∃ t, s = p.beforeClose.text ++ '>' :: t

theorem prefers_global (p : Spelling) {s : List Char} (closes : p.Closes s) :
    (opt (do let _ ← blanks1; flag "global")).Prefers p.globalText s fun _ => True := by
  obtain ⟨t, rfl⟩ := closes
  unfold Spelling.globalText
  cases p.global with
  | some way =>
    obtain ⟨gap, isSet⟩ := way
    refine Prefers.opt ((prefers_blanks1 gap ?_).bind fun _ _ => prefers_flag "global" isSet ?_)
    · rfl
    · exact stops_gap p.beforeClose (by decide) (by decide) t
  | none =>
    refine prefers_opt_none fun b u q way => ?_
    obtain ⟨_, place, blanks, named⟩ := mem_bind.mp way
    obtain ⟨run, rest, parts, -, blank, rfl, -⟩ := mem_least1.mp (mem_most1.mp blanks)
    obtain ⟨_, _, word, -⟩ := mem_bind.mp named
    obtain ⟨rest', ahead, -⟩ := mem_text.mp word
    dsimp only at parts ahead
    rw [ahead] at parts
    have clash := (Blank.eq_of_append p.beforeClose.blank blank (by decide) (by decide) parts).2.1
    exact absurd clash (by decide)

theorem head?_globalText (p : Spelling) {s : List Char} (closes : p.Closes s) :
    (p.globalText ++ s).head? ≠ some '=' := by
  obtain ⟨t, rfl⟩ := closes
  unfold Spelling.globalText
  cases p.global with
  | none => exact stops_gap p.beforeClose (by decide) (by decide) t
  | some way =>
    obtain ⟨⟨⟨text, blank⟩, nonempty⟩, isSet⟩ := way
    obtain ⟨e, text, rfl⟩ := List.exists_cons_of_ne_nil nonempty
    intro same
    obtain rfl : e = '=' := by simpa using same
    exact absurd (blank '=' (by simp)) (by decide)

theorem prefers_island {payload : Matcher Span} {Good : Span → Prop} {mark : Char} {literal : List Char}
    (p : Spelling) (notBlank : isBlank mark = false)
    (hp : ∀ s, payload.Prefers (mark :: literal) s Good) (after : List Char) :
    (island payload).Prefers (p.write (mark :: literal)) after Good := by
  have closes : ∀ s, p.Closes (p.beforeClose.text ++ (">".toList ++ s) ++ after) :=
    fun s => ⟨s ++ after, by rw [List.append_assoc]; rfl⟩
  have ends : ∀ s, (p.globalText ++ (p.beforeClose.text ++ (">".toList ++ s)) ++ after).head? ≠ some '=' := by
    intro s
    rw [List.append_assoc]
    exact head?_globalText p (closes s)
  exact (prefers_text "<style" _).bind fun _ _ => (prefers_blanks1 _ rfl).bind fun _ _ =>
    (prefers_flag "jsx" _ (ends _)).bind fun _ _ => (prefers_global p (closes _)).bind fun _ _ =>
    (prefers_blanks _ rfl).bind fun _ _ => (prefers_text ">" _).bind fun _ _ =>
    (prefers_blanks _ rfl).bind fun _ _ => (prefers_text "\x7b" _).bind fun _ _ =>
    (prefers_blanks _ (by exact notBlank)).bind fun _ _ => (hp _).bind fun x good =>
    (prefers_blanks _ rfl).bind fun _ _ => (prefers_text "\x7d" _).bind fun _ _ =>
    (prefers_blanks _ rfl).bind fun _ _ => (prefers_text "</style" _).bind fun _ _ =>
    (prefers_blanks _ rfl).bind fun _ _ => (prefers_text ">" _).return fun _ _ => good

variable {payload : Matcher Span} {p q : Place} {x : Span}

theorem Blank.not_mem {g : List Char} (h : Blank g) : '>' ∉ g := fun member =>
  absurd (h '>' member) (by decide)

theorem flag_reads {name : String} {u : Unit} (way : (u, q) ∈ flag name p) :
    ∃ isSet, p.ahead = flagText name isSet ++ q.ahead := by
  obtain ⟨_, p₁, word, given⟩ := mem_bind.mp way
  obtain ⟨s, parts, rfl⟩ := mem_text.mp word
  obtain ⟨_, p₂, value, last⟩ := mem_bind.mp given
  obtain ⟨-, rfl⟩ := mem_pure.mp last
  rcases mem_opt.mp value with ⟨_, set, -⟩ | ⟨-, rfl⟩
  · obtain ⟨s, rest, rfl⟩ := mem_text.mp set
    dsimp only at rest
    refine ⟨true, ?_⟩
    rw [parts, rest, flagText, if_pos rfl, List.append_assoc]
  · exact ⟨false, by rw [parts, flagText, if_neg Bool.false_ne_true, List.append_nil]⟩

theorem flagText_free {name : String} (free : name.toList.all (fun c => c ≠ '<' ∧ c ≠ '>') = true)
    (isSet : Bool) : ∀ c ∈ flagText name isSet, c ≠ '<' ∧ c ≠ '>' := by
  intro c member
  rcases List.mem_append.mp member with word | value
  · exact List.all_iff_forall_prop.mp free c word
  · have given : "=\x7btrue\x7d".toList.all (fun c => c ≠ '<' ∧ c ≠ '>') = true := by decide
    cases isSet with
    | false => cases value
    | true => exact List.all_iff_forall_prop.mp given c value

theorem gap_free (gap : Gap) : ∀ c ∈ gap.text, c ≠ '<' ∧ c ≠ '>' := by
  intro c member
  have blank := gap.blank c member
  constructor <;> rintro rfl <;> exact absurd blank (by decide)

theorem global_reads {u : Option Unit}
    (way : (u, q) ∈ opt (do let _ ← blanks1; flag "global") p) :
    ∃ run, p.ahead = run ++ q.ahead ∧ '>' ∉ run := by
  rcases mem_opt.mp way with ⟨_, given, -⟩ | ⟨-, rfl⟩
  · obtain ⟨_, p₁, blanks, named⟩ := mem_bind.mp given
    obtain ⟨gap, rest, parts, -, blank, rfl, -⟩ := mem_least1.mp (mem_most1.mp blanks)
    obtain ⟨isSet, ahead⟩ := flag_reads named
    dsimp only at ahead
    refine ⟨gap ++ flagText "global" isSet, by rw [parts, ahead, List.append_assoc], fun member => ?_⟩
    rcases List.mem_append.mp member with blanks | flag
    · exact Blank.not_mem blank blanks
    · exact (flagText_free (by decide) isSet '>' flag).2 rfl
  · exact ⟨[], rfl, by simp⟩

theorem island_reads (way : (x, q) ∈ island payload p) :
    ∃ lead isSet inner g g' r, p.ahead = "<style".toList ++ (lead ++ (flagText "jsx" isSet ++ (inner ++
        '>' :: (g ++ '\x7b' :: (g' ++ r.ahead))))) ∧
      Blank lead ∧ '>' ∉ inner ∧ Blank g ∧ Blank g' ∧ ∃ y r', (y, r') ∈ payload r := by
  obtain ⟨_, p₁, h₁, way⟩ := mem_bind.mp way
  obtain ⟨s₁, parts₁, rfl⟩ := mem_text.mp h₁
  obtain ⟨_, p₂, h₂, way⟩ := mem_bind.mp way
  obtain ⟨lead, s₂, parts₂, -, blankLead, rfl, -⟩ := mem_least1.mp (mem_most1.mp h₂)
  obtain ⟨_, p₃, h₃, way⟩ := mem_bind.mp way
  obtain ⟨isSet, parts₃⟩ := flag_reads h₃
  obtain ⟨_, p₄, h₄, way⟩ := mem_bind.mp way
  obtain ⟨run₄, parts₄, free₄⟩ := global_reads h₄
  obtain ⟨_, p₅, h₅, way⟩ := mem_bind.mp way
  obtain ⟨run₅, s₅, parts₅, blank₅, rfl, -⟩ := mem_least.mp (mem_most.mp h₅)
  obtain ⟨_, p₆, h₆, way⟩ := mem_bind.mp way
  obtain ⟨s₆, parts₆, rfl⟩ := mem_text.mp h₆
  obtain ⟨_, p₇, h₇, way⟩ := mem_bind.mp way
  obtain ⟨g, s₇, parts₇, blank, rfl, -⟩ := mem_least.mp (mem_most.mp h₇)
  obtain ⟨_, p₈, h₈, way⟩ := mem_bind.mp way
  obtain ⟨s₈, parts₈, rfl⟩ := mem_text.mp h₈
  obtain ⟨_, p₉, h₉, way⟩ := mem_bind.mp way
  obtain ⟨g', s₉, parts₉, blank', rfl, -⟩ := mem_least.mp (mem_most.mp h₉)
  obtain ⟨y, r', h, -⟩ := mem_bind.mp way
  dsimp only at parts₂ parts₃ parts₅ parts₆ parts₇ parts₈ parts₉
  refine ⟨lead, isSet, run₄ ++ run₅, g, g', _, ?_, blankLead, ?_, blank, blank', y, r', h⟩
  · rw [parts₁, parts₂, parts₃, parts₄, parts₅, parts₆, parts₇, parts₈, parts₉]
    simp
  · simp only [List.mem_append, not_or]
    exact ⟨free₄, Blank.not_mem blank₅⟩

theorem island_opens (way : (x, q) ∈ island payload p) : Opens p.ahead := by
  obtain ⟨lead, isSet, inner, g, g', r, parts, -⟩ := island_reads way
  exact ⟨_, parts.symm⟩

namespace Spelling

def attributes (p : Spelling) : List Char :=
  p.beforeJsx.text ++ (flagText "jsx" p.setsJsx ++ (p.globalText ++ p.beforeClose.text))

def tail (p : Spelling) : List Char :=
  p.afterPayload.text ++ ("\x7d".toList ++ (p.afterBrace.text ++ ("</style".toList ++
    (p.beforeEnd.text ++ ">".toList))))

theorem write_eq (p : Spelling) (literal : List Char) : p.write literal = "<style".toList ++
    (p.attributes ++ '>' :: (p.beforeBrace.text ++ '\x7b' :: (p.beforePayload.text ++ (literal ++ p.tail)))) := by
  change "<style".toList ++ (p.beforeJsx.text ++ (flagText "jsx" p.setsJsx ++ (p.globalText ++
    (p.beforeClose.text ++ '>' :: (p.beforeBrace.text ++ '\x7b' :: (p.beforePayload.text ++
      (literal ++ p.tail))))))) = _
  rw [attributes]
  generalize "<style".toList = style
  simp only [List.append_assoc]

theorem tail_append (p : Spelling) (after : List Char) : p.tail ++ after = p.afterPayload.text ++ '\x7d' ::
    (p.afterBrace.text ++ ("</style".toList ++ (p.beforeEnd.text ++ '>' :: after))) := by
  change (p.afterPayload.text ++ '\x7d' :: (p.afterBrace.text ++ ("</style".toList ++
    (p.beforeEnd.text ++ ['>'])))) ++ after = _
  generalize "</style".toList = style
  simp

theorem attributes_free (p : Spelling) : ∀ c ∈ p.attributes, c ≠ '<' ∧ c ≠ '>' := by
  intro c member
  simp only [attributes, List.mem_append] at member
  rcases member with lead | jsx | global | close
  · exact gap_free p.beforeJsx.toGap c lead
  · exact flagText_free (by decide) _ c jsx
  · unfold globalText at global
    cases given : p.global with
    | none => rw [given] at global; cases global
    | some way =>
      rw [given] at global
      rcases List.mem_append.mp global with gap | flag
      · exact gap_free way.1.toGap c gap
      · exact flagText_free (by decide) _ c flag
  · exact gap_free p.beforeClose c close

end Spelling

theorem island_unread (spelling : Spelling) {mark : Char} (notBlank : isBlank mark = false)
    (other : ∀ r y r', (y, r') ∈ payload r → ∃ d s, r.ahead = d :: s ∧ isBlank d = false ∧ d ≠ mark)
    {b : Option Char} {literal after : List Char} :
    (x, q) ∉ island payload ⟨b, spelling.write (mark :: literal) ++ after⟩ := by
  intro way
  obtain ⟨lead, isSet, inner, g, g', r, parts, blankLead, free, blank, blank', y, r', found⟩ := island_reads way
  obtain ⟨d, s, ahead, solid, ne⟩ := other r y r' found
  rw [Spelling.write_eq, ahead, List.append_assoc] at parts
  replace parts := List.append_cancel_left parts
  have mine : ∀ c ∈ lead ++ (flagText "jsx" isSet ++ inner), (c != '>') = true := by
    intro c member
    rw [bne_iff_ne]
    rintro rfl
    simp only [List.mem_append] at member
    rcases member with h | h | h
    · exact Blank.not_mem blankLead h
    · exact (flagText_free (by decide) isSet '>' h).2 rfl
    · exact free h
  have theirs : ∀ c ∈ spelling.attributes, (c != '>') = true := fun c member =>
    bne_iff_ne.mpr (spelling.attributes_free c member).2
  have same : spelling.attributes ++ '>' :: (spelling.beforeBrace.text ++ '\x7b' ::
      (spelling.beforePayload.text ++ mark :: (literal ++ spelling.tail ++ after))) =
      (lead ++ (flagText "jsx" isSet ++ inner)) ++ '>' :: (g ++ '\x7b' :: (g' ++ d :: s)) := by
    simpa using parts
  have close := (run_eq_of_append theirs mine (by decide) (by decide) same).2.2
  have brace := (Blank.eq_of_append spelling.beforeBrace.blank blank (by decide) (by decide) close).2.2
  have quote := (Blank.eq_of_append spelling.beforePayload.blank blank' notBlank solid brace).2.1
  exact ne quote.symm

def carrier : List Char := " dangerouslySetInnerHTML=\x7b\x7b __html: \x60".toList

def closing : List Char := "\x60 \x7d\x7d />".toList

theorem element_eq (css : List Char) :
    element css = "<style".toList ++ (carrier ++ (escape css ++ closing)) := by
  have opening : "<style dangerouslySetInnerHTML=\x7b\x7b __html: \x60".toList =
      "<style".toList ++ carrier := by
    decide
  unfold element closing
  rw [opening]
  -- the texts stay closed while the parts are regrouped
  generalize "<style".toList = a, carrier = b, "\x60 \x7d\x7d />".toList = d
  rw [List.append_assoc, List.append_assoc]

theorem carrier_free : '<' ∉ carrier ∧ '>' ∉ carrier := by decide

theorem element_unread {b : Option Char} {css after : List Char} :
    (x, q) ∉ island payload ⟨b, element css ++ after⟩ := by
  intro way
  obtain ⟨lead, isSet, inner, g, g', r, parts, blankLead, -⟩ := island_reads way
  have word : carrier = [' '] ++ 'd' :: carrier.drop 2 := by decide
  dsimp only at parts
  rw [element_eq, List.append_assoc, List.append_assoc, word, List.append_assoc] at parts
  have clash := (Blank.eq_of_append blank_space blankLead (by decide) (by decide)
    (List.append_cancel_left parts)).2.1
  exact absurd clash (by decide)

variable {before after : List Char}

theorem island_consumes (h : Weighs payload fun x => weight x.text) : (island payload).Consumes :=
  (weighs_island h).consumes fun _ => Nat.succ_pos _

theorem rewriteIslands_unread (h : Weighs payload fun x => weight x.text) (hb : StyleFree before)
    {t : List Char} (ht : StyleFree t) (unread : ∀ b x q, (x, q) ∉ island payload ⟨b, '<' :: t⟩) :
    rewriteIslands (island payload) (before ++ '<' :: t) = before ++ '<' :: t := by
  refine rewrite_eq_self (island_consumes h) fun front run b x q parts way => ?_
  obtain ⟨-, place⟩ := place_of_opens hb ht parts (island_opens way)
  rw [place] at way
  exact absurd way (unread b x q)

theorem rewriteIslands_spelled (hb : StyleFree before) (ha : StyleFree after) (spelling : Spelling)
    {mark : Char} {literal : List Char} (notBlank : isBlank mark = false)
    (hp : ∀ s, payload.Prefers (mark :: literal) s fun x => cook x.text = css) :
    rewriteIslands (island payload) (before ++ (spelling.write (mark :: literal) ++ after)) =
      before ++ (element css ++ after) := by
  obtain ⟨x, b', found, cooked⟩ := prefers_island spelling notBlank hp after (lastOr none before)
  have opening : spelling.write (mark :: literal) ++ after = '<' :: ("style".toList ++ (spelling.attributes ++
      '>' :: (spelling.beforeBrace.text ++ '\x7b' :: (spelling.beforePayload.text ++
        ((mark :: literal) ++ spelling.tail))))) ++ after := by
    rw [Spelling.write_eq]
    rfl
  have nonempty : spelling.write (mark :: literal) ≠ [] := List.append_ne_nil_of_left_ne_nil (by decide) _
  have rewritten := rewrite_once (f := fun (x : Span) _ => element (cook x.text)) nonempty
    (fun front back parts nonempty => first?_eq_none fun x q way => ?_) found
    (fun front back b parts nonempty => first?_eq_none fun x q way => ha.not_opens parts (island_opens way))
  · rw [rewriteIslands, rewritten, cooked]
  · have opens := island_opens way
    dsimp only at opens
    rw [opening, List.cons_append] at opens
    exact hb.not_opens parts (opens.within nonempty)

theorem styleFree_element (free : StyleFree css) (ha : StyleFree after) :
    StyleFree ("style".toList ++ (carrier ++ (escape css ++ closing)) ++ after) := by
  have closed : StyleFree (closing ++ after) := ha.behind (by decide)
  have styled : StyleFree (escape css ++ (closing ++ after)) := by
    refine ((spells_escape css).styleFree free).append closed fun c first => ?_
    have tick : closing = '\x60' :: closing.tail := by decide
    rw [tick] at first
    obtain rfl : '\x60' = c := Option.some.inj first
    decide
  rw [List.append_assoc, List.append_assoc, List.append_assoc]
  exact (styled.behind carrier_free.1).behind (by decide)

theorem openTag_ahead (way : (x, q) ∈ openTag p) :
    p.ahead = "<style".toList ++ (x.text ++ '>' :: q.ahead) := by
  rw [openTag_reads way]
  generalize "<style".toList = w
  simp

theorem cleanTags_element (hb : StyleFree before) (free : StyleFree css) (ha : StyleFree after) :
    openTag.rewrite cleanTag (before ++ (element css ++ after)) = before ++ (element css ++ after) := by
  have opening : element css ++ after =
      '<' :: ("style".toList ++ (carrier ++ (escape css ++ closing)) ++ after) := by
    rw [element_eq]
    rfl
  refine rewrite_eq_self openTag_consumes fun front run b x q parts way => ?_
  have shape : run ++ q.ahead = "<style".toList ++ (x.text ++ '>' :: q.ahead) := openTag_ahead way
  rw [opening] at parts
  obtain ⟨-, place⟩ := place_of_opens hb (styleFree_element free ha) parts ⟨_, shape.symm⟩
  have carried : x.text ++ '>' :: q.ahead = carrier ++ (escape css ++ closing ++ after) := by
    rw [shape, ← opening, element_eq, List.append_assoc, List.append_assoc] at place
    exact List.append_cancel_left place
  have held : holds "dangerouslySetInnerHTML".toList x.text = true := by
    rw [holds_iff]
    have inside : "dangerouslySetInnerHTML".toList <:+: carrier :=
      ⟨[' '], "=\x7b\x7b __html: \x60".toList, by decide⟩
    rcases List.append_eq_append_iff.mp carried with ⟨more, early, late⟩ | ⟨more, read, -⟩
    · cases more with
      | nil =>
        rw [List.append_nil] at early
        exact early ▸ inside
      | cons d more =>
        obtain ⟨rfl, -⟩ := List.cons.inj late
        exact absurd (by rw [early]; simp) carrier_free.2
    · rw [read]
      exact inside.trans (List.prefix_append _ _).isInfix
  rw [cleanTag, held]
  rfl

theorem literal_leads {r r' : Place} {y : Span} (way : (y, r') ∈ literal quote r) :
    ∃ s, r.ahead = quote :: s := by
  obtain ⟨c, place, mark, -⟩ := mem_bind.mp way
  obtain ⟨same, s, ahead, -⟩ := mem_char.mp mark
  obtain rfl : c = quote := by simpa using same
  exact ⟨s, ahead⟩

theorem Spells.prefers_literal (h : Spells quote run css) (notSlash : quote ≠ '\\') (s : List Char) :
    (literal quote).Prefers (quote :: (run ++ [quote])) s fun x => cook x.text = css := by
  intro b
  have parts : quote :: (run ++ [quote]) ++ s = quote :: (run ++ quote :: s) := by simp
  rw [parts]
  have value : cook (⟨run ++ quote :: s, quote :: s⟩ : Span).text = css := by rw [Span.text_append, h.cook_eq]
  exact ⟨_, _, h.first?_literal notSlash, value⟩

theorem Spells.prefers_string (h : Spells quote run css) (kind : quote = '"' ∨ quote = '\'') (s : List Char) :
    (literal '"' <|> literal '\'').Prefers (quote :: (run ++ [quote])) s fun x => cook x.text = css := by
  rcases kind with rfl | rfl
  · exact (h.prefers_literal (by decide) s).left
  · refine (h.prefers_literal (by decide) s).right fun b y r way => ?_
    obtain ⟨s', ahead⟩ := literal_leads way
    exact absurd (List.cons.inj ahead).1 (by decide)

theorem Spelling.styleFree_write (p : Spelling) (h : Spells quote run css) (mark : quote ∈ marks)
    (free : StyleFree css) (ha : StyleFree after) :
    ∃ t, p.write (quote :: (run ++ [quote])) ++ after = '<' :: t ∧ StyleFree t := by
  have gap : ∀ {g : Gap}, '<' ∉ g.text := fun {g} member => (gap_free g '<' member).1 rfl
  have single : ∀ {c : Char} {s : List Char}, c ≠ '<' → StyleFree s → StyleFree (c :: s) :=
    fun other hs => StyleFree.behind (s := [_]) (by simpa using other.symm) hs
  have markFree : ∀ c ∈ marks, c ≠ '<' ∧ c ∉ "style".toList := List.all_iff_forall_prop.mp (by decide)
  have letters : ∀ c ∈ "style".toList, '>' ≠ c ∧ isBlank c = false :=
    List.all_iff_forall_prop.mp (by decide)
  -- from the end of the island to its start
  have slash : StyleFree "</style".toList := styleFree_of_holds (by decide)
  have angle : StyleFree ('>' :: after) := single (by decide) ha
  have closed := slash.append (angle.behind gap) fun c first letter =>
    stops_gap p.beforeEnd (letters c letter).1 (letters c letter).2 after first
  have behind : StyleFree (p.tail ++ after) := by
    rw [tail_append]
    exact (single (by decide) (closed.behind gap)).behind gap
  have payload := (h.styleFree free).append (single (markFree quote mark).1 behind) fun c first => by
    obtain rfl : quote = c := Option.some.inj first
    exact (markFree quote mark).2
  have inner := (single (by decide : '\x7b' ≠ '<')
    ((single (markFree quote mark).1 payload).behind (gap (g := p.beforePayload)))).behind
      (gap (g := p.beforeBrace))
  have attributes : '<' ∉ p.attributes := fun member => (p.attributes_free '<' member).1 rfl
  refine ⟨_, ?_, ((single (by decide : '>' ≠ '<') inner).behind attributes).behind
    (by decide : '<' ∉ "style".toList)⟩
  rw [write_eq, style_cons]
  generalize "style".toList = style
  simp

theorem rewriteIslands_element (h : Weighs payload fun x => weight x.text) (free : StyleFree css)
    (hb : StyleFree before) (ha : StyleFree after) :
    rewriteIslands (island payload) (before ++ (element css ++ after)) = before ++ (element css ++ after) := by
  obtain ⟨t, parts, ht⟩ : ∃ t, element css ++ after = '<' :: t ∧ StyleFree t :=
    ⟨_, by rw [element_eq]; rfl, styleFree_element free ha⟩
  rw [parts]
  exact rewriteIslands_unread h hb ht fun b x q => parts ▸ element_unread

theorem rewriteIslands_template (h : Spells quote run css) (kind : quote = '"' ∨ quote = '\'')
    (spelling : Spelling) (free : StyleFree css) (hb : StyleFree before) (ha : StyleFree after) :
    rewriteIslands templateIsland (before ++ (spelling.write (quote :: (run ++ [quote])) ++ after)) =
      before ++ (spelling.write (quote :: (run ++ [quote])) ++ after) := by
  have mark : quote ∈ marks ∧ isBlank quote = false ∧ '\x60' ≠ quote := by
    rcases kind with rfl | rfl <;> decide
  obtain ⟨t, parts, ht⟩ := spelling.styleFree_write h mark.1 free ha
  rw [parts]
  refine rewriteIslands_unread (weighs_literal '\x60') hb ht fun b x q => parts ▸ ?_
  refine island_unread spelling mark.2.1 fun r y r' way => ?_
  obtain ⟨s, ahead⟩ := literal_leads way
  exact ⟨_, _, ahead, by decide, mark.2.2⟩

theorem rewriteIslands_both (spelling : Spelling) (quoting : Quoting) (free : StyleFree css)
    (hb : StyleFree before) (ha : StyleFree after) :
    rewriteIslands stringIsland (rewriteIslands templateIsland
      (before ++ (spelling.write (quoting.literal css) ++ after))) = before ++ (element css ++ after) := by
  have quoted : ∀ {quote run}, Spells quote run css → quote = '"' ∨ quote = '\'' →
      rewriteIslands stringIsland (rewriteIslands templateIsland
        (before ++ (spelling.write (quote :: (run ++ [quote])) ++ after))) =
          before ++ (element css ++ after) := by
    intro quote run spells kind
    have notBlank : isBlank quote = false := by rcases kind with rfl | rfl <;> rfl
    rw [rewriteIslands_template spells kind spelling free hb ha]
    exact rewriteIslands_spelled hb ha spelling notBlank (spells.prefers_string kind)
  cases quoting with
  | template =>
    have carried : rewriteIslands templateIsland
        (before ++ (spelling.write (Quoting.template.literal css) ++ after)) =
          before ++ (element css ++ after) :=
      rewriteIslands_spelled hb ha spelling rfl ((spells_escape css).prefers_literal (by decide))
    rw [carried]
    exact rewriteIslands_element ((weighs_literal '"').orElse (weighs_literal '\'')) free hb ha
  | double => exact quoted (spells_inQuotes (by decide) css) (.inl rfl)
  | single => exact quoted (spells_inQuotes (by decide) css) (.inr rfl)

/-- However an island is spelled, between texts without style tags it becomes the element that carries
its CSS as a template, with nothing in it unescaped. A script reads that template as one token, which
evaluates to the CSS. -/
theorem normalize_spelled (spelling : Spelling) (quoting : Quoting) {css before after : List Char}
    (noReturn : '\r' ∉ css) (free : StyleFree css) (hb : StyleFree before) (ha : StyleFree after) :
    normalize (before ++ (spelling.write (quoting.literal css) ++ after)) =
        before ++ ("<style dangerouslySetInnerHTML=\x7b\x7b __html: \x60".toList ++ escape css ++
          "\x60 \x7d\x7d />".toList ++ after) ∧
      isInert (escape css) = true ∧
      ∀ fuel rest pos, (escape css).length < fuel →
        let t := Script.Lexer.firstToken fuel ('\x60' :: (escape css ++ '\x60' :: rest)) pos
        t.kind = .template ∧ t.isTail = true ∧ t.faults = [] ∧ t.rest = rest ∧
          ∀ c, Machine.expression c (.template [Script.Grammar.quasi t] []) =
            pure (.string (.plain (String.ofList css))) := by
  refine ⟨?_, isInert_escape css, fun fuel rest pos size => ?_⟩
  · have islands := rewriteIslands_both spelling quoting free hb ha
    exact (congrArg (openTag.rewrite cleanTag) islands).trans (cleanTags_element hb free ha)
  · obtain ⟨kind, tail, faults, further, value⟩ :=
      (spells_escape css).firstToken_eq (isInert_escape css) noReturn size rest pos
    exact ⟨kind, tail, faults, further, fun c => expression_template c value⟩

def looseSpelling : Spelling where
  beforeJsx := ⟨⟨[' ', '\n'], List.all_eq_true.mp rfl⟩, by decide⟩
  setsJsx := true
  global := some (⟨⟨[' '], List.all_eq_true.mp rfl⟩, by decide⟩, false)
  beforeClose := ⟨[], List.all_eq_true.mp rfl⟩
  beforeBrace := ⟨['\n'], List.all_eq_true.mp rfl⟩
  beforePayload := ⟨[' '], List.all_eq_true.mp rfl⟩
  afterPayload := ⟨[' '], List.all_eq_true.mp rfl⟩
  afterBrace := ⟨[], List.all_eq_true.mp rfl⟩
  beforeEnd := ⟨[' '], List.all_eq_true.mp rfl⟩

def markedRule : List Char := "a::before \x7b content: \"\\e\"; top: \x60$\x7b \x7d".toList

theorem normalize_spelled_marked :
    '\r' ∉ markedRule ∧ StyleFree markedRule ∧ StyleFree "<main>".toList ∧ StyleFree "</main>".toList ∧
      normalize ("<main>".toList ++ (looseSpelling.write (Quoting.double.literal markedRule) ++
        "</main>".toList)) = "<main>".toList ++ ("<style dangerouslySetInnerHTML=\x7b\x7b __html: \x60".toList ++
          "a::before \x7b content: \"\\\\e\"; top: \\\x60\\$\x7b \x7d".toList ++
            "\x60 \x7d\x7d />".toList ++ "</main>".toList) := by
  have noReturn : '\r' ∉ markedRule := by decide
  have free : StyleFree markedRule := styleFree_of_holds (by decide)
  have before : StyleFree "<main>".toList := styleFree_of_holds (by decide)
  have after : StyleFree "</main>".toList := styleFree_of_holds (by decide)
  have escaped : escape markedRule = "a::before \x7b content: \"\\\\e\"; top: \\\x60\\$\x7b \x7d".toList := by
    decide
  refine ⟨noReturn, free, before, after, ?_⟩
  rw [← escaped]
  exact (normalize_spelled looseSpelling .double noReturn free before after).1

end PagePreview.StyleIsland
