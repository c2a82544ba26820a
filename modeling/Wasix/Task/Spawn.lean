import Wasix.Task.Lifecycle
/-!
# Wasix — spawning a binary

`BinFactory::spawn` looks the binary up, `spawn_exec` takes its compiled
module from the module cache or compiles its entry, and `spawn_exec_module`
hands the task manager a `TaskWasm` whose closure runs `_initialize`, when
the module exports it, then `call_module` (`exec.rs`). A step that fails
before the task is handed over cleans up the `WasiEnv` and returns a
`VirtualBusError`; a task the task manager refuses returns one too.

`spawn_cases` says once what the spawn path can end in. From it and the
lifecycle of the task it launches, `spawn_cleans_up_once`: over the whole
life of a spawned binary, the spawn path and then every entry of its task,
the `WasiEnv` is cleaned up at most once. The spawn path cleans it up
exactly when it cannot find or compile the binary, with `Noent` or
`Noexec`, and not at all when the task manager refuses the task.
-/

namespace Wasix

namespace Task

/-- `VirtualBusError`; of its variants the modelled code returns these. -/
inductive VirtualBusError
  | notFound
  | compileError
  | unknownError
  deriving DecidableEq, Repr

/-- What the spawn path reads of a compiled `Module` (`Ty` the memory types):
the types of the memories it imports, in order, and the names of the
functions its instance exports. -/
structure Module (Ty : Type) where
  importedMemories : List Ty
  exportedFunctions : List String

variable {Ty : Type}

/-- `get_start`: whether the instance exports `_start`. -/
def getStart (module : Module Ty) : Bool := module.exportedFunctions.contains "_start"

/-- `SpawnMemoryType`: the memory the task manager creates for the task. -/
inductive SpawnMemoryType (Ty : Type)
  | createMemory
  | createMemoryOfType (ty : Ty)

/-- `TaskWasm`, by what the modelled code puts in it: the memory to create,
and the task its closure runs. -/
structure TaskWasm (Ty : Type) where
  memory : SpawnMemoryType Ty
  task : GuestTask

/-- `BinaryPackage`, by its entry: `none` for a package without one, else
what compiling it (`Module::new`) gives. -/
structure BinaryPackage (Ty : Type) where
  entry : Option (Except Unit (Module Ty))

/-- What a spawn meets that the modelled code does not decide. -/
structure SpawnWorld (Ty : Type) where
  /-- What `get_binary` finds under the name. -/
  binary : Option (BinaryPackage Ty)
  /-- The module the module cache holds for the binary's hash. -/
  cached : Option (Module Ty)
  /-- What calling `_initialize` gives, when the module exports it. -/
  initRet : Except Unit Unit
  /-- Whether `task_wasm` takes the task. -/
  accepted : Bool

/-- `spawn_exec_module`: the task's memory is created of the type of the
module's first imported memory, if it imports one; its closure runs
`_initialize`, when exported, then `call_module`. A task `task_wasm`
refuses is `UnknownError`. -/
def spawnExecModule (module : Module Ty) (initRet : Except Unit Unit) (accepted : Bool) :
    Except VirtualBusError (TaskWasm Ty) :=
  let memorySpawn : SpawnMemoryType Ty :=
    match module.importedMemories.head? with
    | some ty => .createMemoryOfType ty
    | none => .createMemory
  let init := if module.exportedFunctions.contains "_initialize" then some initRet else none
  if accepted then .ok ⟨memorySpawn, .exec init (getStart module)⟩ else .error .unknownError

/-- `spawn_exec`: the cached module, else the entry compiled. A failed
compile, and a package without an entry, clean up with `Noexec` and are
`CompileError`. -/
def spawnExec (binary : BinaryPackage Ty) (cached : Option (Module Ty))
    (initRet : Except Unit Unit) (accepted : Bool) :
    List Effect × Except VirtualBusError (TaskWasm Ty) :=
  match cached, binary.entry with
  | some module, _ => ([], spawnExecModule module initRet accepted)
  | none, some (.ok module) => ([], spawnExecModule module initRet accepted)
  | none, some (.error ()) => ([.cleanup (.errno .noexec)], .error .compileError)
  | none, none => ([.cleanup (.errno .noexec)], .error .compileError)

/-- `BinFactory::spawn`: a binary `get_binary` does not find cleans up with
`Noent` and is `NotFound`. -/
def BinFactory.spawn (world : SpawnWorld Ty) : List Effect × Except VirtualBusError (TaskWasm Ty) :=
  match world.binary with
  | none => ([.cleanup (.errno .noent)], .error .notFound)
  | some binary => spawnExec binary world.cached world.initRet world.accepted

/-- The cleanups of a spawned binary's `WasiEnv` over its whole life: those
of the spawn path, then those of the entries of the task it launched, over
the segments the task meets. -/
def spawnCleanups (world : SpawnWorld Ty) (segs : List Segment) : List ExitCode :=
  (BinFactory.spawn world).1.filterMap Effect.cleanupCode ++
    match (BinFactory.spawn world).2 with
    | .ok tw => (tw.task.entries true segs).flatMap Entry.cleanups
    | .error _ => []

/-! ## What the spawn path ends in -/

theorem spawnExecModule_cases (module : Module Ty) (initRet : Except Unit Unit)
    (accepted : Bool) :
    spawnExecModule module initRet accepted = .error .unknownError ∨
      ∃ tw, spawnExecModule module initRet accepted = .ok tw := by
  unfold spawnExecModule
  cases accepted
  · exact .inl rfl
  · exact .inr ⟨_, rfl⟩

/-- **What the spawn path ends in**: a cleanup with `Noent` and `NotFound`, a
cleanup with `Noexec` and `CompileError`, or, with nothing cleaned up, the
task manager's refusal or the task handed over. -/
theorem spawn_cases (world : SpawnWorld Ty) :
    BinFactory.spawn world = ([.cleanup (.errno .noent)], .error .notFound) ∨
      BinFactory.spawn world = ([.cleanup (.errno .noexec)], .error .compileError) ∨
      BinFactory.spawn world = ([], .error .unknownError) ∨
      ∃ tw, BinFactory.spawn world = ([], .ok tw) := by
  unfold BinFactory.spawn
  split
  · exact .inl rfl
  · unfold spawnExec
    split
    case h_3 | h_4 => exact .inr (.inl rfl)
    all_goals
      rcases spawnExecModule_cases _ world.initRet world.accepted with h | ⟨tw, h⟩ <;>
        rw [h]
      · exact .inr (.inr (.inl rfl))
      · exact .inr (.inr (.inr ⟨tw, rfl⟩))

/-- **A spawned binary is cleaned up at most once.** Over the whole life of a
binary started by `BinFactory::spawn`, the spawn path and then every entry of
the task it launched, its `WasiEnv` is cleaned up at most once. A spawn that
returns `NotFound` has cleaned it up with `Noent`, one that returns
`CompileError` with `Noexec`; one the task manager refused (`UnknownError`)
has not cleaned it up, nor ever will. A task handed over cleans up nothing
while it leaves a respawn registered. -/
theorem spawn_cleans_up_once (world : SpawnWorld Ty) (segs : List Segment) :
    (spawnCleanups world segs).length ≤ 1 ∧
      ((BinFactory.spawn world).2 = .error .notFound → spawnCleanups world segs = [.errno .noent]) ∧
      ((BinFactory.spawn world).2 = .error .compileError →
        spawnCleanups world segs = [.errno .noexec]) ∧
      ((BinFactory.spawn world).2 = .error .unknownError → spawnCleanups world segs = []) ∧
      ∀ tw, (BinFactory.spawn world).2 = .ok tw → tw.task.pending true segs ≠ none →
        spawnCleanups world segs = [] := by
  unfold spawnCleanups
  rcases spawn_cases world with h | h | h | ⟨tw, h⟩ <;> rw [h] <;> dsimp only
  · simp [Effect.cleanupCode]
  · simp [Effect.cleanupCode]
  · simp
  · simpa only [List.filterMap_nil, List.nil_append, reduceCtorEq, false_implies, true_and,
      Except.ok.injEq, forall_eq'] using tw.task.accepted_cleanups segs

end Task

end Wasix
