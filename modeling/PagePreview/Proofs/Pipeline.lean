import PagePreview.Pipeline
import PagePreview.Proofs.Memo
import Mathlib.Data.List.Basic
import Mathlib.Data.List.Forall2

/-!
# Calls on a shared pipeline

The memo of a pipeline cannot be seen in what its calls answer. Every step of every call leaves a
memo in which each text is kept with what it sanitizes to, so whatever a call finds there is what it
would have computed itself. The order of the steps is arbitrary; no fairness is assumed, and a call
is settled once it has had `Call.stepBound` steps of its own.
-/

namespace PagePreview

namespace Pipeline

@[irreducible]
def compiled (engines : Engines) (config : Config) (text : String) : Except Failure RenderedUnit :=
  (Sanitized.ofSource config text).bind (finish engines config)

/-- Every text is kept with what it sanitizes to. -/
def SoundMemo (config : Config) (memo : SanitizeMemo) : Prop :=
  memo.Faithful fun text s => Sanitized.ofSource config text = .ok s

@[simp] theorem new_config (config : Config) : (new config).config = config := rfl

theorem new_sound (config : Config) : SoundMemo config (new config).memo :=
  Memo.faithful_of_entries_nil rfl

theorem SoundMemo.get?_eq {config : Config} {memo : SanitizeMemo} {digest : String → String}
    {text : String} {s : Sanitized} (hm : SoundMemo config memo)
    (found : memo.get? digest text = some s) : Sanitized.ofSource config text = .ok s := by
  have kept := Memo.get?_good hm found
  exact kept

theorem SoundMemo.insert {config : Config} {memo : SanitizeMemo} {text : String} {s : Sanitized}
    (hm : SoundMemo config memo) (hs : Sanitized.ofSource config text = .ok s)
    (digest : String → String) : SoundMemo config (memo.insert digest text s) := by
  have kept : Memo.Faithful _ (memo.insert digest text s) := Memo.insert_faithful hm hs
  exact kept

variable {p : Pipeline}

theorem compile_result (engines : Engines) (hp : SoundMemo p.config p.memo) (text : String) :
    (p.compile engines text).1 = compiled engines p.config text := by
  unfold compile compiled
  dsimp only
  rw [Memo.getOrCompute_value (Sanitized.ofSource p.config) text hp]

@[simp] theorem compile_config (engines : Engines) (p : Pipeline) (text : String) :
    (p.compile engines text).2.config = p.config := by
  unfold compile
  rfl

theorem compile_sound (engines : Engines) (hp : SoundMemo p.config p.memo) (text : String) :
    SoundMemo p.config (p.compile engines text).2.memo := by
  unfold compile
  dsimp only
  exact Memo.getOrCompute_faithful (Sanitized.ofSource p.config) text hp

theorem run_state (engines : Engines) (hp : SoundMemo p.config p.memo) (source : String) :
    (p.run engines source).1 =
      (PageState.formatting.applyFormatted (engines.format source)).applyCompiled
        (compiled engines p.config
          (PageState.formatting.applyFormatted (engines.format source)).formattedText) := by
  unfold run
  dsimp only
  rw [compile_result engines hp]

end Pipeline

theorem Request.alone_eq (engines : Engines) {p : Pipeline}
    (hp : Pipeline.SoundMemo p.config p.memo) (r : Request) :
    r.alone engines p = r.answer engines (Pipeline.compiled engines p.config (r.text engines)) := by
  cases r with
  | run source => simp only [alone, Pipeline.run_state engines hp, answer, page?, text]
  | compile formatted => simp only [alone, Pipeline.compile_result engines hp, answer, page?, text]

theorem Request.alone_new (engines : Engines) (config : Config) (r : Request) :
    r.alone engines (Pipeline.new config) =
      r.answer engines (Pipeline.compiled engines config (r.text engines)) := by
  have sound : Pipeline.SoundMemo (Pipeline.new config).config (Pipeline.new config).memo :=
    Pipeline.new_sound config
  rw [alone_eq engines sound, Pipeline.new_config]

namespace Call
open Pipeline (SoundMemo compiled)

variable {engines : Engines} {config : Config} {c : Call} {memo : SanitizeMemo}

/-- What a call holds is what its text sanitizes to, and what it is settled with is what compiling
its text comes to. -/
def Sound (engines : Engines) (config : Config) (c : Call) : Prop :=
  match c.phase with
  | .toLookUp | .toSanitize => True
  | .toKeep s | .toFinish s => Sanitized.ofSource config (c.request.text engines) = .ok s
  | .settled result => result = compiled engines config (c.request.text engines)

@[simp] theorem step_request : (c.step engines config memo).1.request = c.request := by
  unfold step
  split
  · dsimp only
    split <;> rfl
  · dsimp only
    split <;> rfl
  · rfl
  · rfl
  · rfl

theorem step_sound (hm : SoundMemo config memo) (hc : c.Sound engines config) :
    (c.step engines config memo).1.Sound engines config ∧
      SoundMemo config (c.step engines config memo).2 := by
  obtain ⟨request, phase⟩ := c
  cases phase with
  | toLookUp =>
    cases found : memo.get? engines.digest (request.text engines) with
    | some s =>
      simp only [step, found]
      exact ⟨hm.get?_eq found, hm⟩
    | none =>
      simp only [step, found]
      exact ⟨trivial, hm⟩
  | toSanitize =>
    cases sanitized : Sanitized.ofSource config (request.text engines) with
    | ok s =>
      simp only [step, sanitized]
      exact ⟨sanitized, hm⟩
    | error e =>
      simp only [step, sanitized]
      refine ⟨?_, hm⟩
      simp only [Sound, compiled, sanitized, Except.bind]
  | toKeep s => exact ⟨hc, hm.insert hc engines.digest⟩
  | toFinish s =>
    have kept : Sanitized.ofSource config (request.text engines) = .ok s := hc
    refine ⟨?_, hm⟩
    simp only [step, Sound, compiled, kept, Except.bind]
  | settled result => exact ⟨hc, hm⟩

def remaining (c : Call) : Nat :=
  match c.phase with
  | .toLookUp => 4
  | .toSanitize => 3
  | .toKeep _ => 2
  | .toFinish _ => 1
  | .settled _ => 0

theorem remaining_step : (c.step engines config memo).1.remaining ≤ c.remaining - 1 := by
  obtain ⟨request, phase⟩ := c
  cases phase with
  | toLookUp => simp only [step]; split <;> simp [remaining]
  | toSanitize => simp only [step]; split <;> simp [remaining]
  | toKeep s => exact Nat.le_refl _
  | toFinish s => exact Nat.le_refl _
  | settled result => exact Nat.le_refl _

theorem answer?_of_sound (hc : c.Sound engines config) :
    c.answer? engines = none ∨
      c.answer? engines = some (c.request.alone engines (Pipeline.new config)) := by
  obtain ⟨request, phase⟩ := c
  cases phase with
  | settled result =>
    right
    have same : result = compiled engines config (request.text engines) := hc
    simp only [answer?, same, Request.alone_new]
  | _ => exact Or.inl rfl

theorem answer?_of_remaining (hc : c.Sound engines config) (settled : c.remaining = 0) :
    c.answer? engines = some (c.request.alone engines (Pipeline.new config)) := by
  refine (answer?_of_sound hc).resolve_left fun unanswered => ?_
  obtain ⟨request, phase⟩ := c
  cases phase <;> simp [remaining, answer?] at settled unanswered

end Call

namespace Batch
open Pipeline (SoundMemo)

variable {engines : Engines} {config : Config} {requests : List Request} {b : Batch}

structure Sound (engines : Engines) (config : Config) (requests : List Request) (b : Batch) :
    Prop where
  config_eq : b.pipeline.config = config
  memo : SoundMemo config b.pipeline.memo
  calls : List.Forall₂ (fun r c => c.request = r ∧ c.Sound engines config) requests b.calls

theorem start_sound (engines : Engines) (config : Config) (requests : List Request) :
    (start (Pipeline.new config) requests).Sound engines config requests where
  config_eq := rfl
  memo := Pipeline.new_sound config
  calls := by
    rw [start, List.forall₂_map_right_iff, List.forall₂_same]
    exact fun r _ => ⟨rfl, trivial⟩

theorem step_sound (h : b.Sound engines config requests) (i : Nat) :
    (b.step engines i).Sound engines config requests := by
  unfold step
  cases found : b.calls[i]? with
  | none => exact h
  | some c =>
    obtain ⟨inside, at_i⟩ := List.getElem?_eq_some_iff.mp found
    have there : i < requests.length := h.calls.length_eq ▸ inside
    have hc := (List.forall₂_iff_get.mp h.calls).2 i there inside
    simp only [List.get_eq_getElem, at_i] at hc
    obtain ⟨hcall, hmemo⟩ := Call.step_sound h.memo hc.2
    rw [← h.config_eq] at hcall hmemo
    refine ⟨h.config_eq, h.config_eq ▸ hmemo, List.forall₂_iff_get.mpr ⟨?_, ?_⟩⟩
    · simpa using h.calls.length_eq
    · intro j hj hj'
      simp only [List.get_eq_getElem, List.getElem_set]
      split
      · subst j
        exact ⟨Call.step_request.trans hc.1, h.config_eq ▸ hcall⟩
      · rw [List.length_set] at hj'
        exact (List.forall₂_iff_get.mp h.calls).2 j hj hj'

theorem run_sound (h : b.Sound engines config requests) (order : List Nat) :
    (b.run engines order).Sound engines config requests := by
  induction order generalizing b with
  | nil => exact h
  | cons i order ih => exact ih (step_sound h i)

theorem step_getElem? (b : Batch) (i j : Nat) :
    (b.step engines i).calls[j]? =
      if i = j then
        (b.calls[j]?).map fun c => (c.step engines b.pipeline.config b.pipeline.memo).1
      else b.calls[j]? := by
  unfold step
  by_cases same : i = j
  · subst j
    cases found : b.calls[i]? with
    | none => simp only [if_true, found, Option.map_none]
    | some c =>
      have inside := (List.getElem?_eq_some_iff.mp found).1
      simp only [if_true, List.getElem?_set_self inside, Option.map_some]
  · rw [if_neg same]
    cases b.calls[i]? with
    | none => rfl
    | some c => exact List.getElem?_set_ne same

def left (b : Batch) (i : Nat) : Nat := (b.calls[i]?).elim 0 Call.remaining

theorem left_start (p : Pipeline) (requests : List Request) (i : Nat) :
    (start p requests).left i = if i < requests.length then Call.stepBound else 0 := by
  unfold left start
  rw [List.getElem?_map]
  split
  · rename_i inside
    rw [List.getElem?_eq_getElem inside]
    rfl
  · rename_i outside
    rw [List.getElem?_eq_none (Nat.le_of_not_lt outside)]
    rfl

theorem left_step (engines : Engines) (b : Batch) (i j : Nat) :
    (b.step engines i).left j ≤ b.left j - if i = j then 1 else 0 := by
  unfold left
  rw [step_getElem?]
  split
  · cases b.calls[j]? with
    | none => exact Nat.le_refl _
    | some c => exact Call.remaining_step
  · exact Nat.le_refl _

theorem left_run (engines : Engines) (b : Batch) (order : List Nat) (i : Nat) :
    (b.run engines order).left i ≤ b.left i - order.count i := by
  induction order generalizing b with
  | nil => simp [run]
  | cons j order ih =>
    have hs := left_step engines b j i
    have hr := ih (b.step engines j)
    rw [List.count_cons]
    simp only [run, List.foldl_cons, beq_iff_eq] at hr ⊢
    omega

theorem answers_of_sound (h : b.Sound engines config requests) :
    List.Forall₂ (fun r a => a = none ∨ a = some (r.alone engines (Pipeline.new config)))
      requests (b.answers engines) := by
  rw [answers, List.forall₂_map_right_iff]
  refine h.calls.imp ?_
  rintro r c ⟨rfl, hc⟩
  exact Call.answer?_of_sound hc

theorem answer_of_left (h : b.Sound engines config requests) {i : Nat} (settled : b.left i = 0) :
    (b.answers engines)[i]? =
      (requests[i]?).map fun r => some (r.alone engines (Pipeline.new config)) := by
  unfold answers
  rw [List.getElem?_map]
  by_cases inside : i < requests.length
  · have inside' : i < b.calls.length := h.calls.length_eq ▸ inside
    have hc := (List.forall₂_iff_get.mp h.calls).2 i inside inside'
    simp only [List.get_eq_getElem] at hc
    rw [left, List.getElem?_eq_getElem inside'] at settled
    rw [List.getElem?_eq_getElem inside, List.getElem?_eq_getElem inside', Option.map_some,
      Option.map_some, Call.answer?_of_remaining hc.2 settled, hc.1]
  · have outside : b.calls.length ≤ i := h.calls.length_eq ▸ Nat.le_of_not_lt inside
    rw [List.getElem?_eq_none outside, List.getElem?_eq_none (Nat.le_of_not_lt inside)]
    rfl

theorem answer_of_count (engines : Engines) (config : Config) (requests : List Request)
    {order : List Nat} {i : Nat}
    (enough : i < requests.length → Call.stepBound ≤ order.count i) :
    (((start (Pipeline.new config) requests).run engines order).answers engines)[i]? =
      (requests[i]?).map fun r => some (r.alone engines (Pipeline.new config)) := by
  have hl := left_run engines (start (Pipeline.new config) requests) order i
  rw [left_start] at hl
  apply answer_of_left (run_sound (start_sound engines config requests) order)
  split at hl
  · rename_i inside
    have := enough inside
    omega
  · omega

end Batch

namespace Pipeline

theorem count_inTurn {n i : Nat} (h : i < n) : Call.stepBound ≤ (inTurn n).count i := by
  induction n with
  | zero => exact absurd h (Nat.not_lt_zero i)
  | succ n ih =>
    have split : inTurn (n + 1) = inTurn n ++ List.replicate Call.stepBound n := by
      simp [inTurn, List.range_succ]
    rw [split, List.count_append, List.count_replicate]
    rcases Nat.lt_succ_iff_lt_or_eq.mp h with earlier | rfl
    · exact Nat.le_add_right_of_le (ih earlier)
    · simp

theorem runMany_eq_runs (engines : Engines) (config : Config) (sources : List String)
    (order : List Nat) :
    runMany engines config sources order =
      sources.map fun source => ((new config).run engines source).1 := by
  have settled : ((Batch.start (new config) (sources.map .run)).run engines
      (order ++ inTurn sources.length)).answers engines =
        sources.map fun source => some (.state ((new config).run engines source).1) := by
    apply List.ext_getElem?
    intro i
    rw [Batch.answer_of_count, List.getElem?_map, List.getElem?_map, Option.map_map]
    · rfl
    · intro inside
      have inside : i < sources.length := List.length_map Request.run ▸ inside
      have hc := count_inTurn inside
      rw [List.count_append]
      omega
  unfold runMany
  simp only [settled]
  simp [List.filterMap_map, Function.comp_def, Answer.state?]

end Pipeline

/-- A call that goes on without a break is a compile: it answers the same and leaves the same memo. -/
theorem Batch.run_unbroken (engines : Engines) (p : Pipeline) (text : String) :
    (Batch.start p [.compile text]).run engines (List.replicate Call.stepBound 0) =
      ⟨(p.compile engines text).2, [⟨.compile text, .settled (p.compile engines text).1⟩]⟩ := by
  obtain ⟨config, memo⟩ := p
  simp only [Call.stepBound, List.replicate, run, List.foldl_cons, List.foldl_nil, start,
    List.map_cons, List.map_nil]
  cases found : memo.get? engines.digest text with
  | some s =>
    simp [step, Call.step, Request.text, Pipeline.compile, Memo.getOrCompute, found, Except.bind]
  | none =>
    cases sanitized : Sanitized.ofSource config text with
    | ok s =>
      simp [step, Call.step, Request.text, Pipeline.compile, Memo.getOrCompute, found, sanitized,
        Except.bind]
    | error e =>
      simp [step, Call.step, Request.text, Pipeline.compile, Memo.getOrCompute, found, sanitized,
        Except.bind]

/-- Calls on one pipeline, their steps in any order: each answers nothing yet or what it answers on
a pipeline of its own, and answers once it has had its steps; a later run on the pipeline is a run
on a new one; and pages rendered together come out as they do one by one. -/
theorem shared_memo_invisible (engines : Engines) (config : Config) (requests : List Request)
    (order : List Nat) :
    let batch := (Batch.start (Pipeline.new config) requests).run engines order
    List.Forall₂ (fun r a => a = none ∨ a = some (r.alone engines (Pipeline.new config)))
        requests (batch.answers engines) ∧
      (∀ i, Call.stepBound ≤ order.count i → (batch.answers engines)[i]? =
        (requests[i]?).map fun r => some (r.alone engines (Pipeline.new config))) ∧
      (∀ r : Request, r.alone engines batch.pipeline = r.alone engines (Pipeline.new config)) ∧
      ∀ sources : List String, Pipeline.runMany engines config sources order =
        sources.map fun source => ((Pipeline.new config).run engines source).1 := by
  intro batch
  have sound : batch.Sound engines config requests :=
    Batch.run_sound (Batch.start_sound engines config requests) order
  refine ⟨Batch.answers_of_sound sound, ?_, ?_, ?_⟩
  · intro i enough
    exact Batch.answer_of_count engines config requests fun _ => enough
  · intro r
    rw [Request.alone_new, Request.alone_eq engines (sound.config_eq ▸ sound.memo), sound.config_eq]
  · intro sources
    exact Pipeline.runMany_eq_runs engines config sources order

/-- Two calls whose texts have the same digest, both of which miss before either keeps anything. -/
theorem shared_memo_invisible_colliding :
    let engines : Engines :=
      { format := fun s => ⟨s, none⟩, lower := .ok, execute := fun _ s => .ok s, digest := fun _ => "" }
    let config : Config := { cacheCapacity := 1 }
    let order := [0, 1, 0, 1, 1, 0, 0, 1]
    Call.stepBound ≤ order.count 1 ∧
      (((Batch.start (Pipeline.new config) [.run "let a;", .compile "let b;"]).run engines
          order).answers engines)[1]? =
        some (some ((Request.compile "let b;").alone engines (Pipeline.new config))) := by
  intro engines config order
  have enough : Call.stepBound ≤ order.count 1 := by decide
  exact ⟨enough, (shared_memo_invisible engines config [.run "let a;", .compile "let b;"]
    order).2.1 1 enough⟩

end PagePreview
