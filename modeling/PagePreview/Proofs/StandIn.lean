import PagePreview.Proofs.Names
import PagePreview.Proofs.Text.Quiet
import PagePreview.StandIn

/-!
# The stand-ins are quiet

The text in front of a page is empty or ends its last line. None of its lines begins as an import or
an export does, whatever the page imports and whatever the settings are.
-/

namespace PagePreview.StandIn
open Text

structure QuietLines (s : List Char) : Prop where
  quiet : isQuiet true s = true
  ends : s = [] ∨ s.getLast? = some '\n'

theorem QuietLines.append {s t : List Char} (hs : QuietLines s) (ht : QuietLines t) :
    QuietLines (s ++ t) := by
  rcases hs.ends with rfl | ends
  · exact ht
  · refine ⟨by rw [isQuiet_append ends, hs.quiet, ht.quiet]; rfl, ?_⟩
    rcases ht.ends with rfl | ends'
    · rw [List.append_nil]
      exact .inr ends
    · exact .inr (by simp [List.getLast?_append, ends'])

theorem quietLines_join {parts : List (List Char)} (h : ∀ s ∈ parts, QuietLines s) :
    QuietLines parts.flatten := by
  induction parts with
  | nil => exact ⟨rfl, .inl rfl⟩
  | cons s parts ih =>
    exact (h s (by simp)).append (ih fun t ht => h t (by simp [ht]))

theorem toList_script (s : String) : (script s).toList =
    s.toList.map fun c => if c = '‹' then '\x7b' else if c = '›' then '\x7d' else c :=
  String.toList_map

def fixedHelpers : List String :=
  [componentHelper, hookHelper, namespaceHelper, iconHelper, imageHelper, linkHelper]

theorem mem_fixedHelpers {s : String} : s ∈ fixedHelpers ↔ s = componentHelper ∨ s = hookHelper ∨
    s = namespaceHelper ∨ s = iconHelper ∨ s = imageHelper ∨ s = linkHelper := by
  simp only [fixedHelpers, List.mem_cons, List.not_mem_nil, or_false]

theorem fixedHelpers_quiet : ∀ s ∈ fixedHelpers, QuietLines (s.toList ++ ['\n']) := by
  intro s hs
  refine ⟨?_, .inr (by simp)⟩
  rcases mem_fixedHelpers.mp hs with rfl | rfl | rfl | rfl | rfl | rfl
  · rw [componentHelper, toList_script, String.toList_ofList]
    decide +kernel
  · rw [hookHelper, toList_script, String.toList_ofList]
    decide +kernel
  · rw [namespaceHelper, toList_script, String.toList_ofList]
    decide +kernel
  · rw [iconHelper, toList_script, String.toList_ofList]
    decide +kernel
  · rw [imageHelper, toList_script, String.toList_ofList]
    decide +kernel
  · rw [linkHelper, toList_script, String.toList_ofList]
    decide +kernel

theorem quietLines_const {s : List Char} (hs : Unbroken s) :
    QuietLines ("const ".toList ++ (s ++ ['\n'])) := by
  have line : Unbroken ("onst ".toList ++ s) := Unbroken.append (unbroken_of_all (by decide)) hs
  have parts : "const ".toList ++ (s ++ ['\n']) = 'c' :: (("onst ".toList ++ s) ++ ['\n']) := by
    simp
  refine ⟨?_, .inr (by rw [← List.append_assoc, List.getLast?_concat])⟩
  have first : isKeyed ('c' :: ("onst ".toList ++ s ++ ['\n'])) = false := rfl
  have notBreak : isBreak 'c' = false := rfl
  rw [parts, isQuiet, first, notBreak, isQuiet_unbroken line]
  rfl

theorem quoted_unbroken (s : String) : Unbroken (quoted s).toList := by
  rw [quoted, String.toList_ofList]
  exact quote_unbroken _

theorem declare_unbroken {name value : String} (hn : Unbroken name.toList)
    (hv : Unbroken value.toList) : Unbroken (declare name value).toList := by
  have const : Unbroken "const ".toList := unbroken_of_all (by decide)
  have binds : Unbroken " = ".toList := unbroken_of_all (by decide)
  have ends : Unbroken ";".toList := unbroken_of_all (by decide)
  rw [declare, String.toList_append, String.toList_append, String.toList_append, String.toList_append]
  exact (((const.append hn).append binds).append hv).append ends

theorem declare_quiet {name value : String} (hn : IsPlain name) (hv : Unbroken value.toList) :
    QuietLines ((declare name value).toList ++ ['\n']) := by
  have parts : (declare name value).toList ++ ['\n'] =
      "const ".toList ++ ((name.toList ++ (" = ".toList ++ (value.toList ++ ";".toList))) ++ ['\n']) := by
    simp [declare]
  rw [parts]
  exact quietLines_const (hn.unbroken.append (Unbroken.append (unbroken_of_all (by decide))
    (hv.append (unbroken_of_all (by decide)))))

theorem iconPathValue_unbroken (s : ClassifiedSymbol) : Unbroken (iconPathValue s).toList := by
  unfold iconPathValue
  split
  · exact quoted_unbroken _
  · exact unbroken_of_all (by decide)

theorem value_unbroken (s : ClassifiedSymbol) : Unbroken (value s).toList := by
  have call : ∀ {f x : String}, Unbroken f.toList → Unbroken x.toList →
      Unbroken (f ++ x ++ ")").toList := by
    intro f x hf hx
    rw [String.toList_append, String.toList_append]
    exact (hf.append hx).append (unbroken_of_all (by decide))
  unfold value
  split
  · exact call (unbroken_of_all (by decide)) (quoted_unbroken _)
  · exact call (unbroken_of_all (by decide)) (quoted_unbroken _)
  · refine call ?_ (iconPathValue_unbroken s)
    rw [String.toList_append, String.toList_append]
    exact (Unbroken.append (unbroken_of_all (by decide)) (quoted_unbroken _)).append
      (unbroken_of_all (by decide))
  · exact call (unbroken_of_all (by decide)) (quoted_unbroken _)
  · exact unbroken_of_all (by decide)
  · exact unbroken_of_all (by decide)
  · rw [toList_script]
    exact unbroken_of_all (by decide +kernel)
  · rw [toList_script]
    exact unbroken_of_all (by decide +kernel)

theorem lines_toList {texts : List String} (some : texts ≠ []) :
    (lines texts).toList = (texts.map fun s => s.toList ++ ['\n']).flatten := by
  unfold lines
  induction texts with
  | nil => exact absurd rfl some
  | cons s texts ih =>
    cases texts with
    | nil => simp [String.intercalate_singleton]
    | cons t texts =>
      have rest := ih (by simp)
      rw [List.map_cons, List.flatten_cons, ← rest]
      simp [String.intercalate_cons_cons]

theorem lines_quiet {texts : List String} (h : ∀ s ∈ texts, QuietLines (s.toList ++ ['\n'])) :
    QuietLines (lines texts).toList := by
  rcases eq_or_ne texts [] with rfl | some
  · exact ⟨by decide, .inr (by decide)⟩
  · rw [lines_toList some]
    exact quietLines_join (List.forall_mem_map.mpr h)

theorem helpers_quiet (config : Config) (table : SymbolTable) :
    ∀ s ∈ helpers config table, QuietLines (s.toList ++ ['\n']) := by
  have needed : ∀ {p : Bool} {texts : List String} {s : String},
      (∀ t ∈ texts, QuietLines (t.toList ++ ['\n'])) → s ∈ (if p then texts else []) →
      QuietLines (s.toList ++ ['\n']) := by
    intro p texts s quiet hs
    split at hs
    · exact quiet s hs
    · cases hs
  intro s hs
  simp only [helpers, List.mem_append] at hs
  rcases hs with ((((hs | hs) | hs) | hs) | hs) | hs
  · exact needed (by simpa using fixedHelpers_quiet componentHelper (by simp [mem_fixedHelpers])) hs
  · exact needed (by simpa using fixedHelpers_quiet hookHelper (by simp [mem_fixedHelpers])) hs
  · exact needed (by simpa using fixedHelpers_quiet namespaceHelper (by simp [mem_fixedHelpers])) hs
  · refine needed ?_ hs
    simpa using ⟨declare_quiet (by unfold IsPlain; decide) (quoted_unbroken _),
      fixedHelpers_quiet iconHelper (by simp [mem_fixedHelpers])⟩
  · refine needed ?_ hs
    simpa using ⟨declare_quiet (by unfold IsPlain; decide) (quoted_unbroken _),
      fixedHelpers_quiet imageHelper (by simp [mem_fixedHelpers])⟩
  · refine needed ?_ hs
    simpa using ⟨declare_quiet (by unfold IsPlain; decide) (quoted_unbroken _),
      fixedHelpers_quiet linkHelper (by simp [mem_fixedHelpers])⟩

theorem prelude_quiet (config : Config) {table : SymbolTable}
    (plain : ∀ s ∈ table.entries, IsPlain s.name) : QuietLines (prelude config table).toList := by
  unfold prelude
  split
  · exact ⟨rfl, .inl rfl⟩
  · rw [String.toList_append]
    refine (lines_quiet (helpers_quiet config table)).append (lines_quiet ?_)
    intro text member
    obtain ⟨s, hs, rfl⟩ := List.mem_map.mp member
    exact declare_quiet (plain s hs) (value_unbroken s)

theorem mem_intercalate {texts : List String} {c : Char} (h : c ∈ (", ".intercalate texts).toList) :
    c ∈ ", ".toList ∨ ∃ s ∈ texts, c ∈ s.toList := by
  induction texts with
  | nil => simp [String.intercalate_nil] at h
  | cons s texts ih =>
    cases texts with
    | nil => exact .inr ⟨s, by simp, by simpa [String.intercalate_singleton] using h⟩
    | cons t texts =>
      rw [String.intercalate_cons_cons, String.toList_append, String.toList_append, List.mem_append,
        List.mem_append] at h
      rcases h with (first | comma) | rest
      · exact .inr ⟨s, by simp, first⟩
      · exact .inl comma
      · refine (ih rest).imp_right ?_
        rintro ⟨u, hu, member⟩
        exact ⟨u, by simp [hu], member⟩

theorem intercalate_unbroken {texts : List String} (h : ∀ s ∈ texts, Unbroken s.toList) :
    Unbroken (", ".intercalate texts).toList := by
  intro c hc
  rcases mem_intercalate hc with comma | ⟨s, hs, member⟩
  · exact unbroken_of_all (s := ", ".toList) (by decide) c comma
  · exact h s hs c member

theorem memberPattern_unbroken {imported name : String} (hi : IsPlain imported) (hn : IsPlain name) :
    Unbroken (memberPattern imported name).toList := by
  unfold memberPattern
  split
  · exact hn.unbroken
  · rw [String.toList_append, String.toList_append]
    exact (hi.unbroken.append (unbroken_of_all (by decide))).append hn.unbroken

theorem members_quiet {members : List String} (h : ∀ s ∈ members, Unbroken s.toList) :
    QuietLines (if members.isEmpty then "" else "const \x7b " ++ ", ".intercalate members ++
      " \x7d = " ++ runtimeHandle ++ ";\n").toList := by
  split
  · exact ⟨rfl, .inl rfl⟩
  · have parts : ("const \x7b " ++ ", ".intercalate members ++ " \x7d = " ++ runtimeHandle ++
        ";\n").toList = "const ".toList ++ (("\x7b ".toList ++ ((", ".intercalate members).toList ++
          " \x7d = React;".toList)) ++ ['\n']) := by
      simp [runtimeHandle]
    rw [parts]
    exact quietLines_const (Unbroken.append (unbroken_of_all (by decide))
      ((intercalate_unbroken h).append (unbroken_of_all (by decide))))

theorem runtimeBindings_quiet {bindings : List RuntimeBinding}
    (plain : ∀ b ∈ bindings, ∀ name ∈ b.names, IsPlain name) :
    QuietLines (runtimeBindings bindings).toList := by
  unfold runtimeBindings
  rw [String.toList_append]
  refine QuietLines.append (members_quiet ?_) ?_
  · intro s hs
    obtain ⟨b, hb, found⟩ := List.mem_filterMap.mp hs
    cases b with
    | member imported name =>
      obtain rfl := Option.some.inj found
      exact memberPattern_unbroken (plain _ hb imported (by simp [RuntimeBinding.names]))
        (plain _ hb name (by simp [RuntimeBinding.names]))
    | handle name => cases found
  · rw [String.toList_join, List.flatMap]
    refine quietLines_join ?_
    intro s hs
    obtain ⟨text, member, rfl⟩ := List.mem_map.mp hs
    obtain ⟨b, hb, found⟩ := List.mem_filterMap.mp member
    cases b with
    | member imported name => cases found
    | handle name =>
      obtain rfl := Option.some.inj found
      rw [String.toList_append]
      exact declare_quiet (plain _ hb name (by simp [RuntimeBinding.names]))
        (unbroken_of_all (by decide))

end PagePreview.StandIn
