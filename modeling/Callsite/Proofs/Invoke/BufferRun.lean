import Callsite.Proofs.Invoke.Buffer

/-!
# Character buffers as mutable strings

Calls of the emulated methods of character buffers, one after another from one node, on a
machine that emulates them.  However buffers are constructed, appended to and copied, and
through whichever of their handles, each has the content that the calls gave it, every call
completes, and the strings that are copied from buffers stay as they are.
-/

namespace Callsite

variable {σ : Type}

/-- Calls on buffers, one after another from a node.  What they were asked to do is listed
latest first. -/
inductive BufferRun (machine : Machine σ) (start : Node) (before : Analysis σ) :
    List BufferEvent → Node → Analysis σ → Prop where
  | start : BufferRun machine start before [] start before
  | call (op : InvokeOp) {log : List BufferEvent} {node : Node} {analysis : Analysis σ}
      {receiver : Handle} {effect : BufferEffect} :
      BufferRun machine start before log node analysis →
      op.Asks (analysis.heaps.get node.activation.heap) node.frame receiver effect →
      BufferRun machine start before ({ receiver, effect } :: log)
        ((op.execute machine node).run analysis).1.2 ((op.execute machine node).run analysis).2

/-- What is kept by calls on buffers. -/
structure BufferInvariant (start : Node) (before : Analysis σ) (log : List BufferEvent)
    (node : Node) (analysis : Analysis σ) : Prop where
  heap : node.activation.heap = start.activation.heap
  catalog : analysis.registry.catalog = before.registry.catalog
  tracks : (before.heaps.get start.activation.heap).Tracks
    (analysis.heaps.get start.activation.heap) log
  keeps : start.frame.KeepsObjects node.frame (before.heaps.get start.activation.heap)
    (analysis.heaps.get start.activation.heap)
  strings : ∀ handle text,
    (before.heaps.get start.activation.heap).get handle = .ok (.string text) →
    (analysis.heaps.get start.activation.heap).get handle = .ok (.string text)

/-- What is seen of buffers after a run of calls, which is what would be seen of strings
that can be changed. -/
structure BuffersAreStrings (machine : Machine σ) (start : Node) (before : Analysis σ)
    (log : List BufferEvent) (node : Node) (analysis : Analysis σ) : Prop where
  /-- By whatever handle a buffer is read, it has the content that the calls gave it. -/
  buffers : (before.heaps.get start.activation.heap).StringBuffers
    (analysis.heaps.get node.activation.heap) log
  /-- The registers refer to the objects that they referred to. -/
  registers : start.frame.KeepsObjects node.frame
    (before.heaps.get start.activation.heap) (analysis.heaps.get node.activation.heap)
  /-- Every call completes. -/
  completes : ∀ (op : InvokeOp) (receiver : Handle) (effect : BufferEffect),
    op.Asks (analysis.heaps.get node.activation.heap) node.frame receiver effect →
    ((op.execute machine node).run analysis).1.1.outcome = .completed
  /-- Appending results in the buffer that was appended to. -/
  appends : ∀ (op : InvokeOp) (receiver : Handle) (text : String),
    op.Asks (analysis.heaps.get node.activation.heap) node.frame receiver (.extend text) →
    (((op.execute machine node).run analysis).1.2.frame.peek .result).handle? = some receiver
  /-- Copying results in a new string with the content of the buffer, which no later call
  changes. -/
  copies : ∀ (op : InvokeOp) (receiver : Handle),
    op.Asks (analysis.heaps.get node.activation.heap) node.frame receiver .read →
    let run := (op.execute machine node).run analysis
    ∃ copy, (run.1.2.frame.peek .result).handle? = some copy ∧
      ¬ (analysis.heaps.get node.activation.heap).Resolves copy ∧
      ∀ further final last, BufferRun machine run.1.2 run.2 further final last →
        (last.heaps.get final.activation.heap).get copy =
          .ok (.string (BufferLog.content
            ((before.heaps.get start.activation.heap).bufferText receiver)
            ((analysis.heaps.get node.activation.heap).sameIdentity receiver) log))

variable {machine : Machine σ} {start node : Node} {before analysis : Analysis σ}
  {log : List BufferEvent} {op : InvokeOp} {receiver : Handle} {effect : BufferEffect}

namespace BufferInvariant

theorem refl (node : Node) (analysis : Analysis σ) :
    BufferInvariant node analysis [] node analysis where
  heap := rfl
  catalog := rfl
  tracks := Heap.tracks_nil _
  keeps := Frame.keepsObjects_of_handle? .refl fun _ _ => rfl
  strings _ _ := id

/-- A call does to the heap what the log says of it. -/
theorem step {returned : Node} {after : Analysis σ} {outcome : Outcome} {made : Option Handle}
    (invariant : BufferInvariant start before log node analysis)
    (serves : InvokeOp.Serves receiver effect node returned analysis after outcome made) :
    BufferInvariant start before ({ receiver, effect } :: log) returned after := by
  have edit := serves.edit
  have keeps := serves.keeps
  rw [invariant.heap] at edit keeps
  constructor
  case heap => exact serves.heap.trans invariant.heap
  case catalog => exact serves.catalog.trans invariant.catalog
  case tracks => exact invariant.tracks.step edit
  case keeps => exact invariant.keeps.trans keeps edit.edits
  case strings =>
    intro handle text found
    exact edit.get_string (invariant.strings handle text found)

end BufferInvariant

section

variable (emulates : machine.emulator = JavaLang.emulator σ)
  (unregistered : before.registry.catalog.find? TypeName.stringBuilder = none)
include emulates unregistered

/-- A call on a buffer after a run is served. -/
theorem BufferInvariant.serves (invariant : BufferInvariant start before log node analysis)
    (asks : op.Asks (analysis.heaps.get node.activation.heap) node.frame receiver effect) :
    let run := (op.execute machine node).run analysis
    ∃ made, InvokeOp.Serves receiver effect node run.1.2 analysis run.2 run.1.1.outcome made := by
  apply InvokeOp.serves_execute emulates _ asks
  rw [invariant.catalog]
  exact unregistered

namespace BufferRun

/-- Any number of calls on buffers keep what one of them keeps. -/
theorem invariant (calls : BufferRun machine start before log node analysis) :
    BufferInvariant start before log node analysis := by
  induction calls with
  | start => exact .refl start before
  | call op _ asks ih =>
      obtain ⟨made, serves⟩ := ih.serves emulates unregistered asks
      exact ih.step serves

/-- Emulated buffers are strings that can be changed.  After any number of calls on them,
each asked for by what the registers and the heap hold then, every buffer has by all its
handles the content that the calls gave it, every call completes, and every copy of a
buffer is a new string with its content, which stays as it is. -/
theorem buffersAreStrings (calls : BufferRun machine start before log node analysis) :
    BuffersAreStrings machine start before log node analysis := by
  have invariant := calls.invariant emulates unregistered
  have tracks := invariant.tracks
  have same := invariant.heap
  constructor
  case buffers =>
    rw [same]
    exact tracks.stringBuffers
  case registers =>
    rw [same]
    exact invariant.keeps
  case completes =>
    intro op receiver effect asks
    obtain ⟨_, serves⟩ := invariant.serves emulates unregistered asks
    exact serves.completed
  case appends =>
    intro op receiver text asks
    obtain ⟨made, serves⟩ := invariant.serves emulates unregistered asks
    cases serves.edit
    exact serves.result receiver rfl
  case copies =>
    intro op receiver asks run
    obtain ⟨made, serves⟩ := invariant.serves emulates unregistered asks
    have unknown : run.2.registry.catalog.find? TypeName.stringBuilder = none := by
      rw [serves.catalog, invariant.catalog]
      exact unregistered
    obtain ⟨copy, content, result, isNew, found, made⟩ := serves.exists_copy
    refine ⟨copy, result, isNew, ?_⟩
    intro further final last continued
    have later := continued.invariant emulates unknown
    have content_eq := tracks.contents receiver content (same ▸ found)
    rw [← serves.heap] at made
    rw [same, ← content_eq, later.heap]
    exact later.strings copy content made

end BufferRun

end

namespace BufferRun

open JavaLang (BufferMethod)

/-- A heap with a placeholder for a buffer and a string. -/
def waiting : Analysis Unit where
  registry := Registry.empty
  heaps := HeapStore.empty.set 0
    { slots := #[.uninitialized TypeName.stringBuilder, .string "ab"], capacity := 3 }
  own := ()

/-- A node with the placeholder in two registers and the string in a third one. -/
def waitingNode : Node where
  address := 0
  activation :=
    { method := BufferMethod.init.declared ⟨0⟩
      frame :=
        (((Frame.blank 3 0).poke (.index 0)
          (TypedValue.reference 0 TypeName.stringBuilder)).poke (.index 1)
            (TypedValue.reference 0 TypeName.stringBuilder)).poke (.index 2)
              (TypedValue.reference 1 TypeName.string)
      heap := 0 }

/-- The construction of the buffer through the first register. -/
def construction : InvokeOp where
  address := 0
  kind := { family := .direct }
  method := BufferMethod.init.declared ⟨0⟩
  registers := [0]
  length_registers := by decide

/-- The string is appended through the second register. -/
def appending : InvokeOp where
  address := 3
  kind := { family := .virtual }
  method := BufferMethod.appendString.declared ⟨0⟩
  registers := [1, 2]
  length_registers := by decide

theorem asks_construction : construction.Asks (waiting.heaps.get waitingNode.activation.heap)
    waitingNode.frame 0 (.reset "") where
  ready :=
    { place := .inr ⟨rfl, by decide +kernel⟩
      room := fun _ => by decide +kernel }
  call :=
    ⟨.init, 0, [], InvokeOp.names_of_declared rfl rfl, rfl, by decide +kernel, .init⟩

/-- Appending asks for the text of the string. -/
theorem asks_appending {heap : Heap} {caller : Frame} (receiver text : Handle)
    (content suffix : String) (isBuffer : heap.get receiver = .ok (.builder content))
    (isString : heap.get text = .ok (.string suffix))
    (first : (caller.peek (.index 1)).handle? = some receiver)
    (second : (caller.peek (.index 2)).handle? = some text) :
    appending.Asks heap caller receiver (.extend suffix) where
  ready := ⟨.inl ⟨content, isBuffer⟩, nofun⟩
  call :=
    ⟨.appendString, 1, [2], InvokeOp.names_of_declared rfl rfl, rfl, first,
      .appendString second isString⟩

/-- A buffer is constructed through one of its registers and appended to through the
other. -/
theorem buffersAreStrings_waiting :
    let machine : Machine Unit := {}
    let constructed := (construction.execute machine waitingNode).run waiting
    let appended := (appending.execute machine constructed.1.2).run constructed.2
    let log : List BufferEvent := [⟨2, .extend "ab"⟩, ⟨0, .reset ""⟩]
    machine.emulator = JavaLang.emulator Unit ∧
      waiting.registry.catalog.find? TypeName.stringBuilder = none ∧
      BufferRun machine waitingNode waiting log appended.1.2 appended.2 ∧
      BuffersAreStrings machine waitingNode waiting log appended.1.2 appended.2 := by
  have started : BufferRun ({} : Machine Unit) waitingNode waiting [] waitingNode waiting :=
    .start
  have once := started.call construction asks_construction
  have twice := once.call appending
    (asks_appending 2 1 "" "ab" (by decide +kernel) (by decide +kernel) (by decide +kernel)
      (by decide +kernel))
  exact ⟨rfl, rfl, twice, twice.buffersAreStrings rfl rfl⟩

end BufferRun

end Callsite
