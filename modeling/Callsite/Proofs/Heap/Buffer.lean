import Callsite.Proofs.Heap.Denotation

/-!
# Contents of character buffers

A character buffer is given a text to start with, grows at its end, and is copied to
strings.  A log tells what was done, and to which buffer by the handle that was used.  As
long as nothing else happens to a heap, what is read through any handle of a buffer is the
content that the log gives it, and no string changes.
-/

namespace Callsite

/-- What is done to a buffer. -/
inductive BufferEffect where
  /-- It starts over with a text. -/
  | reset (text : String)
  /-- A text is appended. -/
  | extend (text : String)
  /-- Its content is copied to a new string. -/
  | read
  deriving DecidableEq, Repr

/-- Something that is done to the buffer of a handle. -/
structure BufferEvent where
  receiver : Handle
  effect : BufferEffect
  deriving DecidableEq, Repr

namespace BufferEffect

/-- The content of a buffer after it. -/
def apply : BufferEffect → String → String
  | .reset text, _ => text
  | .extend text, content => content ++ text
  | .read, content => content

/-- The text that is appended. -/
def extension? : BufferEffect → Option String
  | .extend text => some text
  | _ => none

/-- Whether the buffer starts over. -/
def isReset : BufferEffect → Bool
  | .reset _ => true
  | _ => false

/-- Whether an object is made. -/
def makesObject : BufferEffect → Bool
  | .extend _ => false
  | _ => true

end BufferEffect

namespace BufferLog

variable {initial : String} {mine other : Handle → Bool} {log : List BufferEvent}

/-- The content of one buffer by a log, latest event first.  The receivers that are this
buffer are picked out by `mine`. -/
def content (initial : String) (mine : Handle → Bool) : List BufferEvent → String
  | [] => initial
  | event :: earlier =>
      if mine event.receiver then event.effect.apply (content initial mine earlier)
      else content initial mine earlier

/-- The texts that were appended to one buffer, earliest first. -/
def appended (mine : Handle → Bool) : List BufferEvent → List String
  | [] => []
  | event :: earlier =>
      appended mine earlier ++
        if mine event.receiver then event.effect.extension?.toList else []

/-- Only which receivers of the log are this buffer matters. -/
theorem content_congr (same : ∀ event ∈ log, mine event.receiver = other event.receiver) :
    content initial mine log = content initial other log := by
  induction log with
  | nil => rfl
  | cons event earlier ih =>
      have rest := ih fun event member => same event (List.mem_cons_of_mem _ member)
      simp only [content, rest, same event (List.mem_cons_self ..)]

/-- As long as a buffer does not start over, its content grows by the texts that are
appended, in their order. -/
theorem content_append_eq_join (later : List BufferEvent)
    (noReset : ∀ event ∈ later, mine event.receiver = true → event.effect.isReset = false) :
    content initial mine (later ++ log) =
      content initial mine log ++ String.join (appended mine later) := by
  induction later with
  | nil => simp [appended]
  | cons event rest ih =>
      have earlier := ih fun other member => noReset other (List.mem_cons_of_mem _ member)
      have here := noReset event (List.mem_cons_self ..)
      rw [List.cons_append, content, appended, earlier]
      cases isMine : mine event.receiver with
      | false => simp
      | true =>
          have continues := here isMine
          cases effect : event.effect with
          | reset text =>
              rw [effect] at continues
              cases continues
          | extend text =>
              simp [BufferEffect.apply, BufferEffect.extension?, String.append_assoc]
          | read => simp [BufferEffect.apply, BufferEffect.extension?]

end BufferLog

namespace Heap

variable {start heap after grown : Heap} {receiver handle left right new : Handle}
  {effect : BufferEffect} {made : Option Handle} {inst : Instance} {text : String}
  {log : List BufferEvent}

/-- The object of a handle is a buffer, or a placeholder for one. -/
def BufferPlace (heap : Heap) (handle : Handle) : Prop :=
  (∃ content, heap.get handle = .ok (.builder content)) ∨
    heap.get handle = .ok (.uninitialized TypeName.stringBuilder)

theorem BufferPlace.resolves (place : heap.BufferPlace handle) : heap.Resolves handle := by
  apply resolves_iff_exists_get.mpr
  rcases place with ⟨content, found⟩ | found
  · exact ⟨_, found⟩
  · exact ⟨_, found⟩

/-- An effect can be had on the object of a handle: it is a buffer, or a placeholder that is
to become one, and there is room for the object that is made. -/
structure ReadyFor (heap : Heap) (receiver : Handle) (effect : BufferEffect) : Prop where
  place : (∃ content, heap.get receiver = .ok (.builder content)) ∨
    effect.isReset = true ∧ heap.get receiver = .ok (.uninitialized TypeName.stringBuilder)
  room : effect.makesObject = true → heap.size < heap.capacity

/-- An effect that needs a buffer finds one. -/
theorem ReadyFor.exists_builder (ready : heap.ReadyFor receiver effect)
    (needsBuffer : effect.isReset = false) :
    ∃ content, heap.get receiver = .ok (.builder content) := by
  rcases ready.place with isBuffer | ⟨isReset, _⟩
  · exact isBuffer
  · rw [needsBuffer] at isReset
    cases isReset

/-- What an effect on the buffer of a handle does to a heap, and the handle of the object
that it results in. -/
inductive BufferEdit (heap : Heap) (receiver : Handle) :
    BufferEffect → Option Handle → Heap → Prop where
  /-- A new buffer takes the place of the old one, or of a placeholder. -/
  | reset {text : String} {new : Handle} {grown after : Heap} :
      heap.BufferPlace receiver →
      heap.alloc (.builder text) = .ok (new, grown) →
      grown.forward receiver new = .ok after →
      BufferEdit heap receiver (.reset text) none after
  | extend {text content : String} {after : Heap} :
      heap.get receiver = .ok (.builder content) →
      heap.replace receiver (.builder (content ++ text)) = .ok after →
      BufferEdit heap receiver (.extend text) (some receiver) after
  | read {content : String} {copy : Handle} {after : Heap} :
      heap.get receiver = .ok (.builder content) →
      heap.alloc (.string content) = .ok (copy, after) →
      BufferEdit heap receiver .read (some copy) after

/-! ## A new buffer in the place of another object -/

/-- Where handles lead when a new object takes the place of the one of a handle. -/
theorem resolve_of_supplant {source slot : Handle} (isLive : inst.isLive = true)
    (found : heap.resolve receiver = .ok source)
    (allocated : heap.alloc inst = .ok (new, grown))
    (forwarded : grown.forward receiver new = .ok after)
    (resolved : heap.resolve handle = .ok slot) :
    after.resolve handle = .ok (if slot = source then new else slot) :=
  resolve_forward forwarded (resolve_alloc allocated found)
    (resolve_alloc_self isLive allocated) (resolve_alloc allocated resolved)

/-- Objects that were there before become the same only if they were. -/
theorem sameIdentity_of_supplant (isLive : inst.isLive = true)
    (resolves : heap.Resolves receiver)
    (allocated : heap.alloc inst = .ok (new, grown))
    (forwarded : grown.forward receiver new = .ok after)
    (leftResolves : heap.Resolves left) (rightResolves : heap.Resolves right) :
    after.sameIdentity left right = heap.sameIdentity left right := by
  obtain ⟨source, found⟩ := resolves
  obtain ⟨first, atLeft⟩ := leftResolves
  obtain ⟨second, atRight⟩ := rightResolves
  rw [sameIdentity, sameIdentity, atLeft, atRight,
    resolve_of_supplant isLive found allocated forwarded atLeft,
    resolve_of_supplant isLive found allocated forwarded atRight]
  have firstOld : first ≠ new := ((resolve_alloc_iff isLive allocated).mp atLeft).2
  have secondOld : second ≠ new := ((resolve_alloc_iff isLive allocated).mp atRight).2
  by_cases left_eq : first = source
  · by_cases right_eq : second = source
    · simp [left_eq, right_eq]
    · simp [left_eq, right_eq, Ne.symm secondOld, Ne.symm right_eq]
  · by_cases right_eq : second = source
    · simp [left_eq, right_eq, firstOld]
    · simp [left_eq, right_eq]

/-- The new object is read through the handles of the old one. -/
theorem get_of_supplant (isLive : inst.isLive = true) (resolves : heap.Resolves receiver)
    (allocated : heap.alloc inst = .ok (new, grown))
    (forwarded : grown.forward receiver new = .ok after)
    (same : after.sameIdentity handle receiver = true) : after.get handle = .ok inst := by
  obtain ⟨source, found⟩ := resolves
  have moved := resolve_of_supplant isLive found allocated forwarded found
  rw [if_pos rfl] at moved
  obtain ⟨slot, resolved, atReceiver⟩ := sameIdentity_iff.mp same
  rw [moved] at atReceiver
  cases atReceiver
  apply get_of_resolve resolved
  have elsewhere : new ≠ source := ((resolve_alloc_iff isLive allocated).mp found).2.symm
  rw [getElem?_forward forwarded (resolve_alloc allocated found) elsewhere,
    getElem?_alloc allocated, if_pos rfl]

/-- What is read through any other handle was read through it before. -/
theorem get_of_get_supplant {other : Instance} (isLive : inst.isLive = true)
    (resolves : heap.Resolves receiver)
    (allocated : heap.alloc inst = .ok (new, grown))
    (forwarded : grown.forward receiver new = .ok after)
    (different : after.sameIdentity handle receiver = false)
    (read : after.get handle = .ok other) : heap.get handle = .ok other := by
  obtain ⟨source, found⟩ := resolves
  obtain ⟨slot, resolved, present⟩ := after.get_eq_ok.mp read
  have foundLater := resolve_alloc allocated found
  have moved := resolve_of_supplant isLive found allocated forwarded found
  rw [if_pos rfl] at moved
  have elsewhere : slot ≠ new := by
    rintro rfl
    rw [sameIdentity_iff.mpr ⟨slot, resolved, moved⟩] at different
    cases different
  -- A handle of the old object would be one of the new object now.
  have notMoved : grown.resolve handle ≠ .ok source := by
    intro here
    have followed := resolve_forward forwarded foundLater
      (resolve_alloc_self isLive allocated) here
    rw [if_pos rfl, resolved] at followed
    cases followed
    exact elsewhere rfl
  have apart (origin : Handle) (at_ : grown.resolve receiver = .ok origin) :
      grown.resolve handle ≠ .ok origin := by
    rw [foundLater] at at_
    cases at_
    exact notMoved
  have kept := (merge_of_forward forwarded).kept handle apart
  rw [resolved] at kept
  apply get_of_resolve
  · exact (resolve_alloc_iff isLive allocated).mpr ⟨kept.symm, elsewhere⟩
  · have notSource : slot ≠ source := by
      rintro rfl
      exact notMoved kept.symm
    rw [getElem?_forward forwarded foundLater notSource, getElem?_alloc allocated,
      if_neg elsewhere] at present
    exact present

/-! ## What an effect does to what is read -/

namespace BufferEdit

variable (edit : heap.BufferEdit receiver effect made after)
include edit

theorem edits : heap.Edits after := by
  cases edit with
  | reset _ allocated forwarded =>
      exact Relation.ReflTransGen.tail (.single (.alloc rfl allocated)) (.forward forwarded)
  | extend _ replaced => exact .single (.replace rfl replaced)
  | read _ allocated => exact .single (.alloc rfl allocated)

theorem place : heap.BufferPlace receiver := by
  cases edit with
  | reset place _ _ => exact place
  | extend found _ => exact .inl ⟨_, found⟩
  | read found _ => exact .inl ⟨_, found⟩

/-- Starting over results in nothing. -/
theorem isReset_eq_false (isMade : made = some new) : effect.isReset = false := by
  cases edit with
  | reset _ _ _ => cases isMade
  | extend _ _ => rfl
  | read _ _ => rfl

/-- No two objects that were there before become the same. -/
theorem sameIdentity_eq (leftResolves : heap.Resolves left)
    (rightResolves : heap.Resolves right) :
    after.sameIdentity left right = heap.sameIdentity left right := by
  cases edit with
  | reset place allocated forwarded =>
      exact sameIdentity_of_supplant rfl place.resolves allocated forwarded leftResolves
        rightResolves
  | extend _ replaced =>
      rw [sameIdentity, sameIdentity, resolve_replace_eq rfl replaced,
        resolve_replace_eq rfl replaced]
  | read _ allocated =>
      obtain ⟨first, atLeft⟩ := leftResolves
      obtain ⟨second, atRight⟩ := rightResolves
      rw [sameIdentity, sameIdentity, atLeft, atRight, resolve_alloc allocated atLeft,
        resolve_alloc allocated atRight]

/-- A buffer that is read afterwards either has just started over, or was there before and
has changed by the effect if it is the one of the receiver. -/
theorem get_builder_cases (read : after.get handle = .ok (.builder text)) :
    (after.sameIdentity handle receiver = true ∧ effect = .reset text) ∨
    ∃ content, heap.get handle = .ok (.builder content) ∧
      text = if after.sameIdentity handle receiver then effect.apply content
        else content := by
  cases edit with
  | reset place allocated forwarded =>
      cases same : after.sameIdentity handle receiver with
      | true =>
          have here := get_of_supplant rfl place.resolves allocated forwarded same
          rw [read] at here
          cases here
          exact .inl ⟨rfl, rfl⟩
      | false =>
          right
          have before := get_of_get_supplant rfl place.resolves allocated forwarded same read
          exact ⟨text, before, rfl⟩
  | @extend added content _ found replaced =>
      right
      have identity : after.sameIdentity handle receiver = heap.sameIdentity handle receiver := by
        rw [sameIdentity, sameIdentity, resolve_replace_eq rfl replaced,
          resolve_replace_eq rfl replaced]
      rw [identity]
      cases same : heap.sameIdentity handle receiver with
      | true =>
          have here := get_replace_of_same rfl replaced same
          rw [read] at here
          cases here
          exact ⟨content, (get_congr same).trans found, rfl⟩
      | false =>
          rw [get_replace_of_other rfl replaced same] at read
          exact ⟨text, read, rfl⟩
  | read found allocated =>
      right
      refine ⟨text, get_of_get_alloc rfl allocated read (by simp), ?_⟩
      simp [BufferEffect.apply]

/-- The object of the receiver is a buffer then. -/
theorem get_receiver : ∃ text, after.get receiver = .ok (.builder text) := by
  have resolves := edit.place.resolves
  have stays := edit.edits.resolves resolves
  cases edit with
  | reset _ allocated forwarded =>
      exact ⟨_, get_of_supplant rfl resolves allocated forwarded (sameIdentity_self stays)⟩
  | extend _ replaced =>
      exact ⟨_, get_replace_of_same rfl replaced (sameIdentity_self resolves)⟩
  | read found allocated =>
      exact ⟨_, (get_alloc allocated resolves).trans found⟩

/-- Other objects stay as they are. -/
theorem get_of_other (resolves : heap.Resolves handle)
    (different : heap.sameIdentity handle receiver = false) :
    after.get handle = heap.get handle := by
  have later := (edit.sameIdentity_eq resolves edit.place.resolves).trans different
  obtain ⟨object, read⟩ := resolves_iff_exists_get.mp (edit.edits.resolves resolves)
  cases edit with
  | reset place allocated forwarded =>
      rw [read, get_of_get_supplant rfl place.resolves allocated forwarded later read]
  | extend _ replaced => exact get_replace_of_other rfl replaced different
  | read _ allocated => exact get_alloc allocated resolves

/-- A buffer stays a buffer. -/
theorem get_builder (found : heap.get handle = .ok (.builder text)) :
    ∃ content, after.get handle = .ok (.builder content) := by
  have resolves := resolves_iff_exists_get.mpr ⟨_, found⟩
  cases same : heap.sameIdentity handle receiver with
  | true =>
      rw [get_congr (edit.edits.sameIdentity same)]
      exact edit.get_receiver
  | false =>
      rw [edit.get_of_other resolves same]
      exact ⟨text, found⟩

/-- Strings do not change. -/
theorem get_string (found : heap.get handle = .ok (.string text)) :
    after.get handle = .ok (.string text) := by
  have resolves := resolves_iff_exists_get.mpr ⟨_, found⟩
  cases same : heap.sameIdentity handle receiver with
  | true =>
      rw [get_congr same] at found
      rcases edit.place with ⟨content, isBuffer⟩ | isPlaceholder
      · rw [found] at isBuffer
        cases isBuffer
      · rw [found] at isPlaceholder
        cases isPlaceholder
  | false =>
      rw [edit.get_of_other resolves same]
      exact found

end BufferEdit

/-! ## What a log says of a heap -/

/-- The content of the buffer of a handle, nothing if there is none. -/
def bufferText (heap : Heap) (handle : Handle) : String :=
  match heap.get handle with
  | .ok (.builder text) => text
  | _ => ""

/-- A log tells the contents of all buffers of a heap, from those that they had at the
start. -/
structure Tracks (start heap : Heap) (log : List BufferEvent) : Prop where
  edits : start.Edits heap
  buffers : ∀ handle text, start.get handle = .ok (.builder text) →
    ∃ content, heap.get handle = .ok (.builder content)
  receivers : ∀ event ∈ log, ∃ text, heap.get event.receiver = .ok (.builder text)
  contents : ∀ handle text, heap.get handle = .ok (.builder text) →
    text = BufferLog.content (start.bufferText handle) (heap.sameIdentity handle) log

theorem tracks_nil (start : Heap) : start.Tracks start [] where
  edits := .refl
  buffers _ text found := ⟨text, found⟩
  receivers := nofun
  contents handle text found := by
    rw [BufferLog.content, bufferText, found]

/-- What an effect does to a heap is what the log says of it. -/
theorem Tracks.step (tracks : start.Tracks heap log)
    (edit : heap.BufferEdit receiver effect made after) :
    start.Tracks after ({ receiver, effect } :: log) where
  edits := tracks.edits.trans edit.edits
  buffers handle text found := by
    obtain ⟨content, isBuffer⟩ := tracks.buffers handle text found
    exact edit.get_builder isBuffer
  receivers event member := by
    rcases List.mem_cons.mp member with rfl | earlier
    · exact edit.get_receiver
    · obtain ⟨text, found⟩ := tracks.receivers event earlier
      exact edit.get_builder found
  contents handle text read := by
    rcases edit.get_builder_cases read with ⟨same, rfl⟩ | ⟨content, found, changed⟩
    · simp only [BufferLog.content, same, if_true, BufferEffect.apply]
    · -- The receivers of earlier events have become the same as this buffer only if they
      -- were, so the log can be read as it was read before.
      have unchanged : ∀ event ∈ log,
          after.sameIdentity handle event.receiver =
            heap.sameIdentity handle event.receiver := by
        intro event member
        obtain ⟨other, denoted⟩ := tracks.receivers event member
        apply edit.sameIdentity_eq
        · exact resolves_iff_exists_get.mpr ⟨_, found⟩
        · exact resolves_iff_exists_get.mpr ⟨_, denoted⟩
      rw [changed, tracks.contents handle content found, BufferLog.content,
        BufferLog.content_congr unchanged]

/-- What is seen of the buffers of a heap, since another state of it, if they are strings
that the events of a log have changed. -/
structure StringBuffers (start heap : Heap) (log : List BufferEvent) : Prop where
  /-- By whatever handle a buffer is read, it has the content that the log gives it. -/
  contents : ∀ handle text, heap.get handle = .ok (.builder text) →
    text = BufferLog.content (start.bufferText handle) (heap.sameIdentity handle) log
  /-- By whatever handle a buffer that started over is read, its content is the text that it
  started over with and the texts that were appended since, in their order. -/
  concatenated : ∀ later earlier receiver text handle,
    log = later ++ { receiver, effect := .reset text } :: earlier →
    heap.sameIdentity handle receiver = true →
    (∀ event ∈ later, heap.sameIdentity handle event.receiver = true →
      event.effect.isReset = false) →
    heap.get handle =
      .ok (.builder
        (text ++ String.join (BufferLog.appended (heap.sameIdentity handle) later)))
  /-- What was a buffer from the start or became one is a buffer, by whatever handle. -/
  buffers : ∀ handle,
    (∃ text, start.get handle = .ok (.builder text)) ∨
      (∃ event ∈ log, heap.sameIdentity handle event.receiver = true) →
    ∃ text, heap.get handle = .ok (.builder text)

/-- The buffers of a heap are strings that can be changed. -/
theorem Tracks.stringBuffers (tracks : start.Tracks heap log) :
    start.StringBuffers heap log := by
  have buffers (handle : Handle) (wasOrBecame :
      (∃ text, start.get handle = .ok (.builder text)) ∨
        (∃ event ∈ log, heap.sameIdentity handle event.receiver = true)) :
      ∃ text, heap.get handle = .ok (.builder text) := by
    rcases wasOrBecame with ⟨text, found⟩ | ⟨event, member, isReceiver⟩
    · exact tracks.buffers handle text found
    · rw [get_congr isReceiver]
      exact tracks.receivers event member
  constructor
  case contents => exact tracks.contents
  case buffers => exact buffers
  case concatenated =>
    intro later earlier receiver text handle split isReceiver noReset
    have member : { receiver, effect := .reset text } ∈ log := by
      rw [split]
      exact List.mem_append_right _ (List.mem_cons_self ..)
    obtain ⟨content, found⟩ := buffers handle (.inr ⟨_, member, isReceiver⟩)
    have startedOver : BufferLog.content (start.bufferText handle)
        (heap.sameIdentity handle) ({ receiver, effect := .reset text } :: earlier) =
          text := by
      rw [BufferLog.content, if_pos isReceiver]
      rfl
    have content_eq := tracks.contents handle content found
    rw [split, BufferLog.content_append_eq_join later noReset, startedOver] at content_eq
    rw [found, content_eq]

end Heap

end Callsite
