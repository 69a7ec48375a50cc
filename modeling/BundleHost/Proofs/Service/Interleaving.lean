import BundleHost.Proofs.Service.Correlation
import BundleHost.Proofs.Service.Jobs
import Mathlib.Data.List.Nodup
import Mathlib.Logic.Function.Basic

/-! Many requests at once, whose steps come in any order. Each request runs in jobs of its own, and
every job has a context with its copy of the variable for the identifier: the context of a request
is made when the request comes in, and that of a job inside of it is a copy of the context of the job
that starts it. All contexts are in one place, and what keeps the requests apart is that no context
belongs to two jobs. So each request gets the reply that it would get alone, what is logged for it is
the same, and all of that has the identifier that was chosen for this request and no other one. -/

namespace BundleHost

/-- The value of the variable in each context, and the number of contexts that were made. -/
structure Contexts where
  value : Nat → Text
  used : Nat

namespace Contexts

def set (s : Contexts) (c : Nat) (id : Text) : Contexts :=
  { s with value := Function.update s.value c id }

def add (s : Contexts) (id : Text) : Contexts where
  value := Function.update s.value s.used id
  used := s.used + 1

variable (s : Contexts) (id : Text) {c c' : Nat}

@[simp] theorem used_set (c : Nat) : (s.set c id).used = s.used := rfl

@[simp] theorem used_add : (s.add id).used = s.used + 1 := rfl

@[simp] theorem value_set_self (c : Nat) : (s.set c id).value c = id := Function.update_self ..

theorem value_set_of_ne (h : c' ≠ c) : (s.set c id).value c' = s.value c' :=
  Function.update_of_ne h ..

@[simp] theorem value_add_self : (s.add id).value s.used = id := Function.update_self ..

theorem value_add_of_lt (h : c < s.used) : (s.add id).value c = s.value c :=
  Function.update_of_ne (Nat.ne_of_lt h) ..

end Contexts

/-- A job that waits for the result of the one that it has started. -/
structure Frame where
  context : Nat
  rest : Except Failure Response → Job

/-- A request on its way: before it comes in, while its jobs run, when it has ended in a failure,
which is answered under the identifier that is found in the outermost context, and at its end. -/
inductive Thread
  | arriving (outer : Text) (job : Job)
  | running (context : Nat) (job : Job) (waiting : List Frame)
  | failing (context : Nat) (failure : Failure)
  | reporting (id : Text) (failure : Failure)
  | finished (reply : Reply)

namespace Thread

open FailureLayers (answerFailures failureRecord failureResponse)

structure Move where
  contexts : Contexts
  thread : Thread
  records : List Log.Record := []

/-- The next step of a request. -/
def step (s : Contexts) : Thread → Move
  | arriving outer job => { contexts := s.add outer, thread := running s.used job [] }
  | running c (.publish id rest) waiting =>
    { contexts := s.set c id, thread := running c rest waiting }
  | running c (.look rest) waiting =>
    { contexts := s, thread := running c (rest (s.value c)) waiting }
  | running c (.write record rest) waiting =>
    { contexts := s, thread := running c rest waiting, records := [record] }
  | running c (.callNext child rest) waiting =>
    { contexts := s.add (s.value c), thread := running s.used child (⟨c, rest⟩ :: waiting) }
  | running _ (.done result) (frame :: waiting) =>
    { contexts := s, thread := running frame.context (frame.rest result) waiting }
  | running _ (.done (.ok response)) [] =>
    { contexts := s, thread := finished { response := some response } }
  | running c (.done (.error f)) [] => { contexts := s, thread := failing c f }
  | failing c f => { contexts := s, thread := reporting (s.value c) f }
  | reporting id f =>
    { contexts := s
      thread := finished { response := some (failureResponse id), raised := some f }
      records := [failureRecord id f] }
  | finished reply => { contexts := s, thread := finished reply }

/-! ### Contexts of a request -/

def contexts : Thread → List Nat
  | running c _ waiting => c :: waiting.map Frame.context
  | failing c _ => [c]
  | arriving .. | reporting .. | finished _ => []

/-- Each job of a request has a context that was made for it. -/
structure Fits (s : Contexts) (t : Thread) : Prop where
  below : ∀ c ∈ t.contexts, c < s.used
  nodup : t.contexts.Nodup

variable {s s' : Contexts} {t : Thread} {c : Nat}

theorem used_le_step (s : Contexts) (t : Thread) : s.used ≤ (t.step s).contexts.used := by
  fun_cases step s t <;> simp

/-- A step leaves the contexts of all other requests as they are. -/
theorem value_step (hc : c < s.used) (ho : c ∉ t.contexts) :
    (t.step s).contexts.value c = s.value c := by
  fun_cases step s t
  case case1 outer job => exact s.value_add_of_lt outer hc
  case case2 c' id rest waiting =>
    exact s.value_set_of_ne id fun h => ho (h ▸ List.mem_cons_self)
  case case5 c' child rest waiting => exact s.value_add_of_lt _ hc
  all_goals rfl

/-- A step gives up contexts, or gets one that was not in use. -/
theorem contexts_step (s : Contexts) (t : Thread) :
    (t.step s).thread.contexts.Sublist t.contexts ∨
      (t.step s).thread.contexts = s.used :: t.contexts ∧
        (t.step s).contexts.used = s.used + 1 := by
  fun_cases step s t
  case case1 | case5 => exact .inr ⟨rfl, rfl⟩
  case case6 => exact .inl (List.sublist_cons_self _ _)
  case case2 | case3 | case4 | case8 => exact .inl (List.Sublist.refl _)
  all_goals exact .inl (List.nil_sublist _)

theorem mem_contexts_step (h : c ∈ (t.step s).thread.contexts) : c ∈ t.contexts ∨ c = s.used := by
  rcases contexts_step s t with hsub | ⟨he, -⟩
  · exact .inl (hsub.subset h)
  · rw [he, List.mem_cons] at h
    exact h.symm

theorem Fits.step (h : t.Fits s) : (t.step s).thread.Fits (t.step s).contexts := by
  rcases contexts_step s t with hsub | ⟨he, hused⟩
  · exact ⟨fun c hc => (h.below c (hsub.subset hc)).trans_le (used_le_step s t),
      hsub.nodup h.nodup⟩
  · have hnew : s.used ∉ t.contexts := fun hm => Nat.lt_irrefl _ (h.below _ hm)
    constructor
    case below =>
      rw [he, hused]
      intro c hc
      rcases List.mem_cons.mp hc with rfl | hold
      · omega
      · have := h.below c hold
        omega
    case nodup =>
      rw [he]
      exact List.nodup_cons.mpr ⟨hnew, h.nodup⟩

/-- A job that waits, with the value of its variable. -/
abbrev Waiter := Text × (Except Failure Response → Job)

def waiters (s : Contexts) (waiting : List Frame) : List Waiter :=
  waiting.map fun frame => (s.value frame.context, frame.rest)

@[simp] theorem waiters_nil (s : Contexts) : waiters s [] = [] := rfl

@[simp] theorem waiters_cons (s : Contexts) (frame : Frame) (waiting : List Frame) :
    waiters s (frame :: waiting) = (s.value frame.context, frame.rest) :: waiters s waiting := rfl

theorem waiters_congr {waiting : List Frame}
    (h : ∀ c ∈ waiting.map Frame.context, s'.value c = s.value c) :
    waiters s' waiting = waiters s waiting := by
  rw [List.forall_mem_map] at h
  exact List.map_congr_left fun frame hm => by rw [h frame hm]

/-- What a job publishes is not seen by those that wait for it. -/
theorem Fits.waiters_set {job : Job} {waiting : List Frame} (h : (running c job waiting).Fits s)
    (id : Text) : waiters (s.set c id) waiting = waiters s waiting := by
  have hc : c ∉ waiting.map Frame.context := (List.nodup_cons.mp h.nodup).1
  exact waiters_congr fun c' hm => s.value_set_of_ne id fun he => hc (he ▸ hm)

theorem Fits.waiters_add {job : Job} {waiting : List Frame} (h : (running c job waiting).Fits s)
    (id : Text) (rest : Except Failure Response → Job) :
    waiters (s.add id) (⟨c, rest⟩ :: waiting) = (s.value c, rest) :: waiters s waiting := by
  have hold : ∀ c' ∈ (⟨c, rest⟩ :: waiting : List Frame).map Frame.context,
      (s.add id).value c' = s.value c' := fun c' hm => s.value_add_of_lt id (h.below c' hm)
  rw [waiters_congr hold]
  rfl

/-! ### What is still to come -/

/-- What comes of the result of a job, once the jobs that wait for it go on with it. -/
def unwind (e : Exchange) : List Waiter → Exchange
  | [] => e
  | (id, rest) :: waiting => unwind (((rest e.result).run id).after e.records) waiting

/-- The steps that they take with it, up to the end of the request, which may take two more. -/
def stepsAfter (result : Except Failure Response) : List Waiter → Nat
  | [] => 2
  | (id, rest) :: waiting =>
    (rest result).steps id + stepsAfter ((rest result).run id).result waiting

/-- The reply, and what is logged from now on, if no other request gets in between. -/
def toCome (s : Contexts) : Thread → Reply × List Log.Record
  | arriving outer job => answerFailures (job.run outer)
  | running c job waiting => answerFailures (unwind (job.run (s.value c)) (waiters s waiting))
  | failing c f => answerFailures { requestId := s.value c, result := .error f }
  | reporting id f => answerFailures { requestId := id, result := .error f }
  | finished reply => (reply, [])

/-- A bound for the steps that are left. -/
def left (s : Contexts) : Thread → Nat
  | arriving outer job => job.steps outer + stepsAfter (job.run outer).result [] + 1
  | running c job waiting =>
    job.steps (s.value c) + stepsAfter (job.run (s.value c)).result (waiters s waiting)
  | failing .. => 2
  | reporting .. => 1
  | finished _ => 0

/-- What is to come of a request depends on its own contexts only. -/
theorem toCome_and_left_congr (h : ∀ c ∈ t.contexts, s'.value c = s.value c) :
    t.toCome s' = t.toCome s ∧ t.left s' = t.left s := by
  cases t with
  | running c job waiting =>
    rw [contexts, List.forall_mem_cons] at h
    rw [toCome, toCome, left, left, h.1, waiters_congr h.2]
    exact ⟨rfl, rfl⟩
  | failing c f =>
    rw [contexts, List.forall_mem_singleton] at h
    rw [toCome, toCome, h]
    exact ⟨rfl, rfl⟩
  | arriving outer job => exact ⟨rfl, rfl⟩
  | reporting id f => exact ⟨rfl, rfl⟩
  | finished reply => exact ⟨rfl, rfl⟩

theorem unwind_after (records : List Log.Record) (e : Exchange) (waiting : List Waiter) :
    unwind (e.after records) waiting = (unwind e waiting).after records := by
  induction waiting generalizing e with
  | nil => rfl
  | cons waiter rest ih =>
    rw [unwind, unwind, ← ih, ← Exchange.after_append]
    rfl

theorem answerFailures_after (records : List Log.Record) (e : Exchange) :
    answerFailures (e.after records) =
      ((answerFailures e).1, records ++ (answerFailures e).2) := by
  rw [answerFailures, answerFailures]
  cases hr : e.result with
  | ok response => simp [Exchange.after, hr]
  | error f => simp [Exchange.after, hr]

/-- A step does the first part of what was to come. -/
theorem toCome_step (h : t.Fits s) :
    t.toCome s = (((t.step s).thread.toCome (t.step s).contexts).1,
      (t.step s).records ++ ((t.step s).thread.toCome (t.step s).contexts).2) := by
  -- the contexts change where a request comes in, in a publication, and where a job is started
  fun_cases step s t
  case case1 outer job => simp [toCome, unwind]
  case case2 c id rest waiting => simp [toCome, Job.run, h.waiters_set id]
  case case3 c rest waiting => simp [toCome, Job.run]
  case case4 c record rest waiting =>
    simp [toCome, Job.run, unwind_after, answerFailures_after]
  case case5 c child rest waiting =>
    have hwaiters := h.waiters_add (s.value c) rest
    simp only [toCome, hwaiters, Contexts.value_add_self]
    rfl
  case case6 c result frame waiting => simp [toCome, unwind, Job.run]
  all_goals rfl

/-- A step leaves fewer of them. -/
theorem left_step (h : t.Fits s) :
    (t.step s).thread.left (t.step s).contexts ≤ t.left s - 1 := by
  fun_cases step s t
  case case1 outer job => simp [left]
  case case2 c id rest waiting => simp [left, Job.run, Job.steps, h.waiters_set id]
  case case3 c rest waiting => simp [left, Job.run, Job.steps]
  case case4 c record rest waiting => simp [left, Job.run, Job.steps, Exchange.after]
  case case5 c child rest waiting =>
    have hwaiters := h.waiters_add (s.value c) rest
    simp only [left, hwaiters, Contexts.value_add_self, stepsAfter, Job.steps, Job.run,
      Exchange.after]
    omega
  case case6 c result frame waiting => simp [left, stepsAfter, Job.run, Job.steps]
  all_goals simp [left, stepsAfter, Job.steps]

theorem finished_of_left (h : t.left s = 0) : ∃ reply, t = finished reply := by
  cases t with
  | running c job waiting =>
    have := job.steps_pos (s.value c)
    rw [left] at h
    omega
  | finished reply => exact ⟨reply, rfl⟩
  | arriving outer job => simp [left] at h
  | failing c f => simp [left] at h
  | reporting id f => simp [left] at h

end Thread

/-! ### All requests -/

/-- All requests, each under its name, and what was logged for which of them. -/
structure Machine (ι : Type) where
  contexts : Contexts
  threads : ι → Thread
  log : List (ι × Log.Record) := []

namespace Machine

variable {ι : Type} [DecidableEq ι]

def step (m : Machine ι) (i : ι) : Machine ι :=
  let move := (m.threads i).step m.contexts
  { contexts := move.contexts
    threads := Function.update m.threads i move.thread
    log := m.log ++ move.records.map fun record => (i, record) }

/-- The steps of some requests, in the order in which they come. -/
def run (m : Machine ι) (schedule : List ι) : Machine ι := schedule.foldl step m

def written (m : Machine ι) (i : ι) : List Log.Record :=
  (m.log.filter fun entry => entry.1 = i).map Prod.snd

/-- No context belongs to two jobs. -/
structure Apart (m : Machine ι) : Prop where
  fits : ∀ i, (m.threads i).Fits m.contexts
  apart : ∀ i j, i ≠ j → ∀ c ∈ (m.threads i).contexts, c ∉ (m.threads j).contexts

variable {m : Machine ι} {i k : ι}

@[simp] theorem thread_step_self (m : Machine ι) (i : ι) :
    (m.step i).threads i = ((m.threads i).step m.contexts).thread := Function.update_self ..

theorem thread_step_of_ne (m : Machine ι) (h : i ≠ k) : (m.step k).threads i = m.threads i :=
  Function.update_of_ne h ..

theorem written_step_self (m : Machine ι) (i : ι) :
    (m.step i).written i = m.written i ++ ((m.threads i).step m.contexts).records := by
  simp [written, step, List.filter_append, List.filter_map, Function.comp_def]

theorem written_step_of_ne (m : Machine ι) (h : i ≠ k) : (m.step k).written i = m.written i := by
  simp [written, step, List.filter_append, List.filter_map, Function.comp_def, h.symm]

/-- A context that a step brings to a request is in no other request. -/
theorem Apart.step (h : m.Apart) (k : ι) : (m.step k).Apart := by
  have hnew : ∀ i, i ≠ k → ∀ c ∈ ((m.threads k).step m.contexts).thread.contexts,
      c ∉ (m.threads i).contexts := by
    intro i hi c hc hm
    rcases Thread.mem_contexts_step hc with hold | rfl
    · exact h.apart i k hi c hm hold
    · exact Nat.lt_irrefl _ ((h.fits i).below _ hm)
  -- only the request whose step it is has other contexts than before
  constructor
  case fits =>
    intro i
    by_cases hi : i = k
    · subst hi
      rw [thread_step_self]
      exact (h.fits i).step
    · rw [thread_step_of_ne m hi]
      have hused := Thread.used_le_step m.contexts (m.threads k)
      exact ⟨fun c hc => ((h.fits i).below c hc).trans_le hused, (h.fits i).nodup⟩
  case apart =>
    intro i j hij c hc
    by_cases hi : i = k
    · subst hi
      rw [thread_step_self] at hc
      rw [thread_step_of_ne m hij.symm]
      exact hnew j hij.symm c hc
    · rw [thread_step_of_ne m hi] at hc
      by_cases hj : j = k
      · subst hj
        rw [thread_step_self]
        exact fun hm => hnew i hi c hm hc
      · rw [thread_step_of_ne m hj]
        exact h.apart i j hij c hc

/-- What was logged for a request and what is to come of it is what comes of it alone. -/
structure Keeps (alone : ι → Reply × List Log.Record) (m : Machine ι) : Prop where
  apart : m.Apart
  reply : ∀ i, ((m.threads i).toCome m.contexts).1 = (alone i).1
  records : ∀ i, m.written i ++ ((m.threads i).toCome m.contexts).2 = (alone i).2

variable {alone : ι → Reply × List Log.Record}

theorem Apart.value_step_of_ne (h : m.Apart) (hi : i ≠ k) :
    ∀ c ∈ (m.threads i).contexts, (m.step k).contexts.value c = m.contexts.value c :=
  fun c hc => Thread.value_step ((h.fits i).below c hc) (h.apart i k hi c hc)

theorem Apart.toCome_step_of_ne (h : m.Apart) (hi : i ≠ k) :
    ((m.step k).threads i).toCome (m.step k).contexts = (m.threads i).toCome m.contexts := by
  rw [thread_step_of_ne m hi]
  exact (Thread.toCome_and_left_congr (h.value_step_of_ne hi)).1

theorem Keeps.step (h : m.Keeps alone) (k : ι) : (m.step k).Keeps alone := by
  have hk := Thread.toCome_step (h.apart.fits k)
  constructor
  case apart => exact h.apart.step k
  case reply =>
    intro i
    by_cases hi : i = k
    · subst hi
      rw [← h.reply i, hk, thread_step_self]
      rfl
    · rw [h.apart.toCome_step_of_ne hi, h.reply i]
  case records =>
    intro i
    by_cases hi : i = k
    · subst hi
      rw [← h.records i, hk, thread_step_self, written_step_self, List.append_assoc]
      rfl
    · rw [h.apart.toCome_step_of_ne hi, written_step_of_ne m hi, h.records i]

theorem Keeps.run (h : m.Keeps alone) (schedule : List ι) : (m.run schedule).Keeps alone := by
  induction schedule generalizing m with
  | nil => exact h
  | cons k rest ih => exact ih (h.step k)

theorem mem_written {record : Log.Record} : record ∈ m.written i ↔ (i, record) ∈ m.log := by
  simp [written]

/-- A request that is through has the reply that it gets alone, and so has its part of the log. -/
theorem Keeps.of_finished (h : m.Keeps alone) {reply : Reply} (hi : m.threads i = .finished reply) :
    reply = (alone i).1 ∧ m.written i = (alone i).2 := by
  have hreply := h.reply i
  have hrecords := h.records i
  rw [hi] at hreply hrecords
  rw [Thread.toCome, List.append_nil] at hrecords
  exact ⟨hreply, hrecords⟩

/-- What is logged for a request so far is the first part of what is logged for it alone. -/
theorem Keeps.begins (h : m.Keeps alone) (i : ι) : m.written i <+: (alone i).2 := ⟨_, h.records i⟩

/-! ### Turns -/

theorem Apart.left_step_self (h : m.Apart) (i : ι) :
    ((m.step i).threads i).left (m.step i).contexts ≤ (m.threads i).left m.contexts - 1 := by
  rw [thread_step_self]
  exact Thread.left_step (h.fits i)

theorem Apart.left_step_of_ne (h : m.Apart) (hi : i ≠ k) :
    ((m.step k).threads i).left (m.step k).contexts = (m.threads i).left m.contexts := by
  rw [thread_step_of_ne m hi]
  exact (Thread.toCome_and_left_congr (h.value_step_of_ne hi)).2

/-- A request is through once it had enough turns, whatever the others do in between. -/
theorem Apart.exists_finished (h : m.Apart) {schedule : List ι}
    (hs : (m.threads i).left m.contexts ≤ schedule.count i) :
    ∃ reply, (m.run schedule).threads i = .finished reply := by
  induction schedule generalizing m with
  | nil => exact Thread.finished_of_left (Nat.le_zero.mp hs)
  | cons k rest ih =>
    refine ih (h.step k) ?_
    by_cases hi : i = k
    · subst hi
      have hleft := h.left_step_self i
      rw [List.count_cons_self] at hs
      omega
    · rw [List.count_cons_of_ne (Ne.symm hi)] at hs
      rw [h.left_step_of_ne hi]
      exact hs

end Machine

/-! ### Requests of a service -/

/-- A request, what the service knows when it comes in, and the value that the variable has where
the server starts to answer it. -/
structure Call where
  request : Request
  occasion : Occasion
  installed : Option Installed
  fault : Option Failure
  outer : Text

namespace Call

def id (call : Call) : Text := RequestId.choose call.occasion.freshId call.request

/-- The reply to the request and its log, if there is no other request. -/
def alone (app : App) (call : Call) : Reply × List Log.Record :=
  app.respond call.installed call.fault call.occasion call.request

def thread (app : App) (call : Call) : Thread :=
  .arriving call.outer (app.job call.installed call.fault call.occasion call.request)

/-- The value that the variable has before is not looked at. -/
theorem toCome_thread (app : App) (call : Call) (s : Contexts) :
    (call.thread app).toCome s = call.alone app := by
  have hdoes := app.job_does call.installed call.fault call.occasion call.outer call.request
  rw [thread, Thread.toCome, hdoes]
  rfl

end Call

namespace App

variable {ι : Type} [DecidableEq ι]

/-- The service before any of the requests has come in. -/
def machine (app : App) (calls : ι → Call) : Machine ι where
  contexts := { value := fun _ => [], used := 0 }
  threads i := (calls i).thread app

omit [DecidableEq ι] in
theorem apart_machine (app : App) (calls : ι → Call) : (app.machine calls).Apart where
  fits _ := ⟨nofun, List.nodup_nil⟩
  apart _ _ _ := nofun

theorem keeps_machine (app : App) (calls : ι → Call) :
    (app.machine calls).Keeps fun i => (calls i).alone app where
  apart := app.apart_machine calls
  reply i := congrArg Prod.fst ((calls i).toCome_thread app _)
  records i := congrArg Prod.snd ((calls i).toCome_thread app _)

/-- Whatever steps the requests have taken and in whichever order, all that was logged for a request
has the identifier that was chosen for it, and so has its reply when it is through, in the header
and in the body. It does get through, once it had enough turns. -/
theorem names_of_interleaving (app : App) (calls : ι → Call) (i : ι) :
    (∀ schedule, (∀ record, (i, record) ∈ ((app.machine calls).run schedule).log →
        record.Names (calls i).id) ∧
      ∀ reply, ((app.machine calls).run schedule).threads i = .finished reply →
        reply.Names (calls i).id) ∧
    ∃ turns, ∀ schedule : List ι, turns ≤ schedule.count i →
      ∃ reply, ((app.machine calls).run schedule).threads i = .finished reply := by
  have hnames := app.names_respond (calls i).installed (calls i).fault (calls i).occasion
    (calls i).request
  constructor
  · intro schedule
    have hkeeps := (app.keeps_machine calls).run schedule
    constructor
    · intro record hm
      exact hnames.2 record ((hkeeps.begins i).subset (Machine.mem_written.mpr hm))
    · intro reply hi
      rw [(hkeeps.of_finished hi).1]
      exact hnames.1
  · exact ⟨_, fun schedule hs => (app.apart_machine calls).exists_finished hs⟩

end App
end BundleHost
