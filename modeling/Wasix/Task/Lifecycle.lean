import Wasix.Task.Entry
/-!
# Wasix — a guest task's life

A run of a task is its launch, then the resumes its registered respawns
make, over the segments it meets (`GuestTask.entries`); `GuestTask.resumedIn`
lists the respawns the run re-enters, and `GuestTask.pending` is the respawn
left registered at the end, `none` once the task has ended. Every entry of a
run is a launch or a resume (`mem_entries`), and every respawn re-entered
holds a state a deep sleep recorded (`mem_resumedIn`), so what the entry
lemmas say of one entry holds along every run: every recorded state is
resumed at the width it recorded or refused, and none is rewound at the
other width (`entries_widthSafe`); and a task is cleaned up at most once over
its life, and not at all while a respawn is registered (`entries_cleanups`).
-/

namespace Wasix

namespace Task

namespace GuestTask

variable (t : GuestTask)

/-- The respawn a run of resumes leaves registered. -/
def pendingAfter : Option Respawn → List Segment → Option Respawn
  | some rs, seg :: segs => pendingAfter (t.resume rs seg).respawn segs
  | none, _ => none
  | r, [] => r

/-- The respawn a run leaves registered: `none` once the task has ended, or
when `task_wasm` refused it. -/
def pending (accepted : Bool) : List Segment → Option Respawn
  | seg :: segs => if accepted then t.pendingAfter (t.launch seg).respawn segs else none
  | [] => none

/-- The respawns a run of resumes re-enters, each with the segment it meets. -/
def resumed : Option Respawn → List Segment → List (Respawn × Segment)
  | some rs, seg :: segs => (rs, seg) :: resumed (t.resume rs seg).respawn segs
  | _, _ => []

/-- The respawns a run re-enters, each with the segment it meets: the one the
launch left registered, then the one each resume left. -/
def resumedIn (accepted : Bool) : List Segment → List (Respawn × Segment)
  | seg :: segs => if accepted then t.resumed (t.launch seg).respawn segs else []
  | [] => []

variable {t}

@[simp] theorem resumes_none (segs : List Segment) : t.resumes none segs = [] := by
  cases segs <;> rfl

@[simp] theorem pendingAfter_none (segs : List Segment) : t.pendingAfter none segs = none := by
  cases segs <;> rfl

/-- Every entry of a run of resumes is a resume. -/
theorem mem_resumes {r : Option Respawn} {segs : List Segment} {e : Entry}
    (h : e ∈ t.resumes r segs) : ∃ rs seg, e = t.resume rs seg := by
  induction segs generalizing r with
  | nil => cases r <;> simp [resumes] at h
  | cons seg segs ih =>
    cases r with
    | none => simp at h
    | some rs =>
      rcases List.mem_cons.1 h with rfl | h
      · exact ⟨rs, seg, rfl⟩
      · exact ih h

/-- Every entry of a run is the launch or a resume. -/
theorem mem_entries {accepted : Bool} {segs : List Segment} {e : Entry}
    (h : e ∈ t.entries accepted segs) :
    (∃ seg, e = t.launch seg) ∨ ∃ rs seg, e = t.resume rs seg := by
  cases segs with
  | nil => simp [entries] at h
  | cons seg segs =>
    cases accepted
    · simp [entries] at h
    · rcases List.mem_cons.1 h with rfl | h
      · exact .inl ⟨seg, rfl⟩
      · exact .inr (mem_resumes h)

/-- Each respawn a run of resumes re-enters holds a state a deep sleep
recorded, and is resumed by one of the run's entries. -/
theorem mem_resumed {r : Option Respawn} {segs : List Segment} {rs : Respawn} {seg : Segment}
    (hr : ∀ rs', r = some rs' → rs'.Recorded) (h : (rs, seg) ∈ t.resumed r segs) :
    rs.Recorded ∧ t.resume rs seg ∈ t.resumes r segs := by
  induction segs generalizing r with
  | nil => cases r <;> simp [resumed] at h
  | cons seg' segs ih =>
    cases r with
    | none => simp [resumed] at h
    | some rs' =>
      simp only [resumed, List.mem_cons, Prod.mk.injEq] at h
      rcases h with ⟨rfl, rfl⟩ | h
      · exact ⟨hr _ rfl, List.mem_cons_self _ _⟩
      · obtain ⟨hrec, hmem⟩ := ih (fun _ h' => t.resume_respawn_recorded seg' h') h
        exact ⟨hrec, List.mem_cons_of_mem _ hmem⟩

theorem mem_resumedIn {accepted : Bool} {segs : List Segment} {rs : Respawn} {seg : Segment}
    (h : (rs, seg) ∈ t.resumedIn accepted segs) :
    rs.Recorded ∧ t.resume rs seg ∈ t.entries accepted segs := by
  cases segs with
  | nil => simp [resumedIn] at h
  | cons seg' segs =>
    cases accepted
    · simp [resumedIn] at h
    · obtain ⟨hrec, hmem⟩ := mem_resumed (fun _ h' => t.launch_respawn_recorded seg' h') h
      exact ⟨hrec, List.mem_cons_of_mem _ hmem⟩

/-- **No recorded state is rewound at the other width.** Along every run of
every task, whether its respawns re-enter `call_module` or `run::<M>`: every
entry rewinds only at the width its state recorded, and finishes rewinds
only at that width but for one that refuses the resume with an error exit.
And every respawn the run re-enters holds a state a deep sleep recorded, and
is resumed by an entry of the run that finishes the rewind at the width the
state recorded and, once finishing succeeds, rewinds it at that width; or
that is refused, having tried the other width, with the invalid-state error
and no respawn left. -/
theorem entries_widthSafe (t : GuestTask) (accepted : Bool) (segs : List Segment) :
    (∀ e ∈ t.entries accepted segs, e.WidthSafe) ∧
      ∀ rs seg, (rs, seg) ∈ t.resumedIn accepted segs →
        rs.Recorded ∧ t.resume rs seg ∈ t.entries accepted segs ∧
          (t.resume rs seg).ResumeSafe rs.rewind seg.finish := by
  refine ⟨fun e he => ?_, fun rs seg h => ⟨(mem_resumedIn h).1, (mem_resumedIn h).2,
    t.resume_resumeSafe seg rs⟩⟩
  rcases mem_entries he with ⟨seg, rfl⟩ | ⟨rs, seg, rfl⟩
  · exact t.launch_widthSafe seg
  · exact t.resume_widthSafe seg rs

/-- An exec task whose `_start` sleeps in a 64-bit syscall, its respawn taken,
and whose resumed `_start` returns: the resume finishes the rewind and
rewinds the recorded state at `Memory64`. -/
theorem sleeping_exec_resumed_at_memory64 :
    let env : Env := ⟨⟨65536, fun a => .ofNat a, by decide⟩, ⟨32768, 65536, by decide, by decide⟩,
      65504, none, 0⟩
    let rs : Respawn := ⟨env, env.unwind .memory64 [5, 6]⟩
    let segs : List Segment :=
      [⟨.ok (), .deepSleep .memory64 env [5, 6], true⟩, ⟨.ok (), .returned, false⟩]
    (rs, ⟨.ok (), .returned, false⟩) ∈ (GuestTask.exec none true).resumedIn true segs ∧
      rs.rewind.is64bit = true ∧
      ((GuestTask.exec none true).resume rs ⟨.ok (), .returned, false⟩).log =
        [.setStatus .running, .rewindingFinish .memory64 rs.rewind, .rewind .memory64 rs.rewind,
          .callStart, .cleanup (.errno .success), .setStatus (.finished (.errno .success))] ∧
      rs.Recorded ∧ (GuestTask.exec none true).resume rs ⟨.ok (), .returned, false⟩ ∈
          (GuestTask.exec none true).entries true segs ∧
        ((GuestTask.exec none true).resume rs ⟨.ok (), .returned, false⟩).ResumeSafe rs.rewind
          (.ok ()) :=
  (fun hmem => ⟨hmem, rfl, rfl, (entries_widthSafe _ true _).2 _ _ hmem⟩) (List.mem_singleton.2 rfl)

/-- The cleanups of a run of resumes: at most one, and none while the run
leaves a respawn registered. -/
theorem resumes_cleanups (r : Option Respawn) (segs : List Segment) :
    ((t.resumes r segs).flatMap Entry.cleanups).length ≤ 1 ∧
      (t.pendingAfter r segs ≠ none → (t.resumes r segs).flatMap Entry.cleanups = []) := by
  induction segs generalizing r with
  | nil => cases r <;> simp [resumes, pendingAfter]
  | cons seg segs ih =>
    cases r with
    | none => simp
    | some rs =>
      obtain ⟨hle, hnil⟩ := t.resume_cleanupSound seg rs
      simp only [resumes, pendingAfter, List.flatMap_cons]
      cases hr : (t.resume rs seg).respawn with
      | none => simpa using hle
      | some rs' =>
        rw [hnil (by simp [hr]), List.nil_append]
        exact ih (some rs')

/-- The cleanups of a run `task_wasm` took: at most one, and none while the
run leaves a respawn registered. -/
theorem accepted_cleanups (segs : List Segment) :
    ((t.entries true segs).flatMap Entry.cleanups).length ≤ 1 ∧
      (t.pending true segs ≠ none → (t.entries true segs).flatMap Entry.cleanups = []) := by
  cases segs with
  | nil => simp [entries, pending]
  | cons seg segs =>
    obtain ⟨hle, hnil⟩ := t.launch_cleanupSound seg
    simp only [entries, pending, if_true, List.flatMap_cons]
    cases hr : (t.launch seg).respawn with
    | none => simpa using hle
    | some rs =>
      rw [hnil (by simp [hr]), List.nil_append]
      exact resumes_cleanups (some rs) segs

/-- **A task is cleaned up at most once, and not while it sleeps.** Over any
run of any task, its entries clean up its `WasiEnv` at most once in all, and
not at all if the run leaves a respawn registered. -/
theorem entries_cleanups (t : GuestTask) (accepted : Bool) (segs : List Segment) :
    ((t.entries accepted segs).flatMap Entry.cleanups).length ≤ 1 ∧
      (t.pending accepted segs ≠ none → (t.entries accepted segs).flatMap Entry.cleanups = []) := by
  cases accepted
  · cases segs <;> simp [entries, pending]
  · exact t.accepted_cleanups segs

end GuestTask

end Task

end Wasix
