import Wasix.Fork.ProcFork
/-!
# Wasix — what parent and child see after a fork

Both sides of a copy-mode fork resume from the same suspension point: the
parent on its own memory, rewound with the patched stack, and the child on
its copy of the memory, rewound with the stack as captured. Each re-enters
`proc_fork`, whose `handle_rewind` puts its stack back and returns
`Success`. `procFork_parent_child_agree` says what each side then sees in
memory: the parent reads the child's pid at `pid_ptr`, the child reads
zero, and no other byte and not the stack pointer differ between them.
-/

namespace Wasix

namespace Fork

/-- **Parent and child differ at the pid slot only.** Take a copy-mode fork
whose slot is on the stack and whose continuation fits, and a child env on
the copied memory with the parent's layout. The parent's re-entry into
`proc_fork` reads the child's pid at `pid_ptr`; the child's, on its rewound
copy, reads zero; both return `Success` with the same stack pointer, and
every other byte of the two memories is the same. -/
theorem procFork_parent_child_agree (w : MemoryWidth) (st : ForkState) (pidPtr c : Nat)
    (world : ForkWorld) (hr : st.env.rewinding = none) (hf : world.fork = some c)
    (hw : pidPtr + 4 ≤ st.env.memory.size)
    (hs : SlotOnStack st.env.layout pidPtr (st.env.layout.stackUpper - st.env.stackPointer))
    (hfit : st.env.layout.stackLower + world.rewindStack.length ≤ st.env.layout.stackUpper)
    (envC : Env) (hmem : envC.memory = st.env.memory.store pidPtr (leBytes 0 4))
    (hlayout : envC.layout = st.env.layout) (copyMemory : Bool) (world' : ForkWorld) :
    ∃ stP child parentStack envC' envP envQ,
      procFork w st true pidPtr world =
        .copied stP child world.taskWasm parentStack (some .invokeAgain) ∧
      envC.rewind child.memoryStack child.rewindStack child.storeData = (.success, envC') ∧
      procFork w stP copyMemory pidPtr world' = .returned { stP with env := envP } (.ok .success) ∧
      procFork w ⟨envC', c, [], none⟩ copyMemory pidPtr world' =
        .returned ⟨envQ, c, [], none⟩ (.ok .success) ∧
      envP.memory.load pidPtr 4 = leBytes c 4 ∧ envQ.memory.load pidPtr 4 = leBytes 0 4 ∧
      envP.stackPointer = envQ.stackPointer ∧
      ∀ a, a < pidPtr ∨ pidPtr + 4 ≤ a → envP.memory.data a = envQ.memory.data a := by
  obtain ⟨hidx, hend⟩ := slotIndex_spec hs
  rw [procFork_copy_eq hr hf hw]
  simp only [Memory.length_load, if_pos hs]
  rw [Env.rewind_of_fits { st.env with memory := st.env.memory.store pidPtr (leBytes 0 4) } hfit]
  dsimp only
  refine ⟨_, _, _, _, _, _, rfl, Env.rewind_of_fits envC (by rw [hlayout]; exact hfit),
    procFork_of_rewinding rfl, procFork_of_rewinding rfl, ?_⟩
  set L := (st.env.memory.store pidPtr (leBytes 0 4)).load st.env.stackPointer
    (st.env.layout.stackUpper - st.env.stackPointer)
  set i₀ := slotIndex st.env.layout pidPtr (st.env.layout.stackUpper - st.env.stackPointer)
  have hL : L.length = st.env.layout.stackUpper - st.env.stackPointer := Memory.length_load _ _
  have hsl : (patchStack L i₀ (leBytes c 4)).length = L.length :=
    length_patchStack (by rw [length_leBytes]; omega)
  have hbot : st.env.layout.stackUpper - L.length = st.env.stackPointer := by omega
  simp only [Env.setMemoryStack, hmem, hlayout, hsl, hbot]
  refine ⟨?_, ?_, trivial, fun a ha => ?_⟩
  · rw [← hidx, Memory.load_store_window (by omega : i₀ + 4 ≤ (patchStack L i₀ (leBytes c 4)).length)]
    exact take_drop_patchStack (by omega) (length_leBytes c 4)
  · rw [← hidx, Memory.load_store_window (by omega : i₀ + 4 ≤ L.length), Memory.take_drop_load hend,
      hidx]
    simpa using Memory.load_store_self (m := st.env.memory) pidPtr (leBytes 0 4)
  · refine Memory.store_data_congr hsl fun hq => ?_
    rw [getElem?_patchStack (by rw [length_leBytes]; omega), length_leBytes, if_neg (by omega)]

/-- The fork of `pid_slot_on_stack`, its child on the copied memory: the
parent reads pid 2 at `pid_ptr` and the child reads zero; elsewhere, the
stack included, both read the same bytes. -/
theorem forked_child_reads_zero :
    let st : ForkState := ⟨⟨⟨65536, fun a => .ofNat a, by decide⟩,
      ⟨32768, 65536, by decide, by decide⟩, 65504, none, 0⟩, 1, [], none⟩
    let world : ForkWorld := ⟨some 2, true, [5, 6]⟩
    let envC : Env := { st.env with memory := st.env.memory.store 65528 (leBytes 0 4) }
    st.env.rewinding = none ∧ world.fork = some 2 ∧ 65528 + 4 ≤ st.env.memory.size ∧
      SlotOnStack st.env.layout 65528 (st.env.layout.stackUpper - st.env.stackPointer) ∧
      st.env.layout.stackLower + world.rewindStack.length ≤ st.env.layout.stackUpper ∧
      ∃ stP child parentStack envC' envP envQ,
        procFork .memory32 st true 65528 world =
          .copied stP child world.taskWasm parentStack (some .invokeAgain) ∧
        envC.rewind child.memoryStack child.rewindStack child.storeData = (.success, envC') ∧
        procFork .memory32 stP true 65528 world = .returned { stP with env := envP } (.ok .success) ∧
        procFork .memory32 ⟨envC', 2, [], none⟩ true 65528 world =
          .returned ⟨envQ, 2, [], none⟩ (.ok .success) ∧
        envP.memory.load 65528 4 = leBytes 2 4 ∧ envQ.memory.load 65528 4 = leBytes 0 4 ∧
        envP.stackPointer = envQ.stackPointer ∧
        ∀ a, a < 65528 ∨ 65528 + 4 ≤ a → envP.memory.data a = envQ.memory.data a := by
  intro st world envC
  exact ⟨rfl, rfl, by decide, by decide, by decide,
    procFork_parent_child_agree .memory32 st 65528 2 world rfl rfl (by decide) (by decide) (by decide)
      envC rfl rfl true world⟩

end Fork

end Wasix
