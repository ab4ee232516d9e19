import Mathlib.Data.Nat.Basic
import Mathlib.Order.Basic
import AxolotyEmbedded.Mqtt.Session

/-!
The subscription table as the carrier keeps it: four buffers of `NETWORK_MAX_TOPIC` bytes,
of which the first `network_subscription_count` hold strings. An operation answers nothing
where it would read or write outside a buffer or run past a string's end; read as the list
of their strings, the buffers never get there.
-/
namespace AxolotyEmbedded.Mqtt

/-- A buffer of `NETWORK_MAX_TOPIC` bytes. -/
abbrev Slot := List UInt8

/-- `strlen`, which needs a terminator in the buffer. -/
def strlen (slot : Slot) : Option Nat :=
  if 0 ∈ slot then some (cString slot).length else none

/-- Whether `strcmp` finds two strings equal. -/
def sameString (slot other : Slot) : Option Bool :=
  if 0 ∈ slot ∧ 0 ∈ other then some (decide (cString slot = cString other)) else none

/-- The topic is copied to the start of the buffer, and a terminator after it. -/
def writeTopic (slot : Slot) (topic : List UInt8) : Option Slot :=
  if topic.length < slot.length then some (topic ++ 0 :: slot.drop (topic.length + 1)) else none

/-- `network_subscriptions` and `network_subscription_count`. -/
structure SubscriptionTable where
  slots : List Slot
  count : Nat
  deriving DecidableEq, Repr

namespace SubscriptionTable

/-- After boot. -/
def initial (bounds : CarrierBounds) : SubscriptionTable :=
  ⟨List.replicate networkSubscriptionCapacity (List.replicate (networkMaxTopic bounds) 0), 0⟩

variable (table : SubscriptionTable)

/-- The loop that looks for a topic among the slots that are left, from `index` on: the
index it stops at. -/
def findTopic (topic : List UInt8) : (left index : Nat) → Option Nat
  | 0, index => some index
  | left + 1, index => do
      let slot ← table.slots[index]?
      let length ← strlen slot
      if length ≠ topic.length ∨ slot.take topic.length ≠ topic then
        findTopic topic left (index + 1)
      else return index

/-- The critical section of `subscribe_wait`: the table afterwards, if there is room. -/
def subscribeSection (topic : List UInt8) : Option (Option SubscriptionTable) := do
  let index ← table.findTopic topic table.count 0
  if index = table.count then
    if networkSubscriptionCapacity ≤ table.count then return none
    else
      let slot ← table.slots[index]?
      let written ← writeTopic slot topic
      return some ⟨table.slots.set index written, table.count + 1⟩
  else return some table

/-- The first critical section of `unsubscribe`: the copy of the slot, if the topic is
there. -/
def copySection (topic : List UInt8) : Option (Option Slot) := do
  let index ← table.findTopic topic table.count 0
  if index = table.count then return none
  else
    let slot ← table.slots[index]?
    return some slot

/-- Each slot from `move` on is copied over the one before it. -/
def shiftDown (slots : List Slot) : (moves move : Nat) → Option (List Slot)
  | 0, _ => some slots
  | moves + 1, move => do
      let slot ← slots[move]?
      shiftDown (slots.set (move - 1) slot) moves (move + 1)

/-- The second critical section of `unsubscribe`, with the slots that are left to look at. -/
def removeSection (topicCopy : Slot) : (left index : Nat) → Option SubscriptionTable
  | 0, _ => some table
  | left + 1, index => do
      let slot ← table.slots[index]?
      if !(← sameString slot topicCopy) then removeSection topicCopy left (index + 1)
      else
        let slots ← shiftDown table.slots left (index + 1)
        let last ← slots[table.count - 1]?
        return ⟨slots.set (table.count - 1) (List.replicate last.length 0), table.count - 1⟩

/-- The topics that the table holds. -/
def contents : List Filter := (table.slots.take table.count).map cString

/-- Four buffers of full size, and a terminator in each that is in use. -/
structure Sound (bounds : CarrierBounds) : Prop where
  slots : table.slots.length = networkSubscriptionCapacity
  sizes : ∀ slot ∈ table.slots, slot.length = networkMaxTopic bounds
  count : table.count ≤ networkSubscriptionCapacity
  terminated : ∀ slot ∈ table.slots.take table.count, 0 ∈ slot

variable {table} {bounds : CarrierBounds}

theorem sound_initial (bounds : CarrierBounds) : (initial bounds).Sound bounds where
  slots := List.length_replicate
  sizes := fun slot member => by
    obtain ⟨-, rfl⟩ := List.mem_replicate.mp member
    exact List.length_replicate
  count := Nat.zero_le _
  terminated := nofun

theorem Sound.length_contents (sound : table.Sound bounds) : table.contents.length = table.count := by
  have count := sound.count
  rw [contents, List.length_map, List.length_take, sound.slots]
  omega

/-- The slot at an index in use, with what it holds and where it stands. -/
theorem Sound.slot (sound : table.Sound bounds) {index : Nat} (used : index < table.count) :
    ∃ slot, table.slots[index]? = some slot ∧ 0 ∈ slot ∧
      slot.length = networkMaxTopic bounds ∧
      table.contents.drop index = cString slot :: table.contents.drop (index + 1) := by
  have within : index < table.slots.length := by
    rw [sound.slots]
    exact Nat.lt_of_lt_of_le used sound.count
  have inUse : index < table.contents.length := sound.length_contents.symm ▸ used
  refine ⟨table.slots[index], List.getElem?_eq_getElem within, sound.terminated _ ?_,
    sound.sizes _ (List.getElem_mem within), ?_⟩
  · exact List.mem_take_iff_getElem.mpr ⟨index, by omega, rfl⟩
  · rw [List.drop_eq_getElem_cons inUse]
    simp [contents]

theorem strlen_eq {slot : Slot} (terminated : 0 ∈ slot) :
    strlen slot = some (cString slot).length := if_pos terminated

/-- A string has the topic's length and bytes exactly when it is the topic. -/
theorem cString_eq_iff (slot : Slot) (topic : List UInt8) :
    cString slot = topic ↔
      ¬ ((cString slot).length ≠ topic.length ∨ slot.take topic.length ≠ topic) := by
  have start : slot.take (cString slot).length = cString slot :=
    List.prefix_iff_eq_take.mp (List.takeWhile_prefix _) |>.symm
  constructor
  · rintro rfl
    simp [start]
  · intro same
    simp only [not_or, not_not] at same
    rw [← start, same.1, same.2]

/-- The loop stops at the topic's place among those that are left. -/
theorem Sound.findTopic (sound : table.Sound bounds) (topic : List UInt8) :
    ∀ left index, index + left = table.count →
      table.findTopic topic left index =
        some (index + (table.contents.drop index).idxOf topic) := by
  intro left
  induction left with
  | zero =>
      intro index whole
      have past : table.contents.length ≤ index := by
        rw [sound.length_contents]
        omega
      simp [SubscriptionTable.findTopic, List.drop_eq_nil_of_le past]
  | succ left ih =>
      intro index whole
      obtain ⟨slot, read, terminated, -, here⟩ := sound.slot (show index < table.count by omega)
      rw [SubscriptionTable.findTopic, read, here]
      simp only [Option.bind_eq_bind, Option.bind_some, strlen_eq terminated]
      by_cases same : cString slot = topic
      · rw [if_neg ((cString_eq_iff slot topic).mp same), same, List.idxOf_cons_self]
        rfl
      · rw [if_pos (not_not.mp fun differs => same ((cString_eq_iff slot topic).mpr differs)),
          ih (index + 1) (by omega), List.idxOf_cons_ne _ same]
        exact congrArg some (by omega)

theorem Sound.findTopic_zero (sound : table.Sound bounds) (topic : List UInt8) :
    table.findTopic topic table.count 0 = some (table.contents.idxOf topic) := by
  rw [sound.findTopic topic table.count 0 (Nat.zero_add _), Nat.zero_add, List.drop_zero]

theorem Sound.idxOf_eq_count (sound : table.Sound bounds) (topic : List UInt8) :
    table.contents.idxOf topic = table.count ↔ topic ∉ table.contents := by
  rw [← sound.length_contents, List.idxOf_eq_length_iff]

/-! ## The critical sections -/

theorem cString_written (topic rest : List UInt8) :
    cString (topic ++ 0 :: rest) = cString topic := by
  induction topic with
  | nil => simp [cString]
  | cons byte topic ih =>
      simp only [cString, List.cons_append, List.takeWhile_cons] at ih ⊢
      split
      · rw [ih]
      · rfl

theorem writeTopic_eq_some {slot : Slot} {topic : List UInt8} (fits : topic.length < slot.length) :
    ∃ written, writeTopic slot topic = some written ∧ written.length = slot.length ∧
      0 ∈ written ∧ cString written = cString topic := by
  refine ⟨_, if_pos fits, ?_, by simp, cString_written topic _⟩
  simp
  omega

/-- The slots in use after one more has been written. -/
theorem take_set_succ {slots : List Slot} {index : Nat} (slot : Slot)
    (within : index < slots.length) :
    (slots.set index slot).take (index + 1) = slots.take index ++ [slot] := by
  simp [List.take_add_one, List.getElem?_set_self within, List.take_set_of_le]

/-- A topic that is there changes nothing. -/
theorem Sound.subscribeSection_present (sound : table.Sound bounds) {topic : List UInt8}
    (present : topic ∈ table.contents) : table.subscribeSection topic = some (some table) := by
  have found : table.contents.idxOf topic ≠ table.count :=
    fun past => (sound.idxOf_eq_count topic).mp past present
  simp [subscribeSection, sound.findTopic_zero topic, found]

theorem Sound.subscribeSection_full (sound : table.Sound bounds) {topic : List UInt8}
    (absent : topic ∉ table.contents) (full : networkSubscriptionCapacity ≤ table.count) :
    table.subscribeSection topic = some none := by
  simp [subscribeSection, sound.findTopic_zero topic, (sound.idxOf_eq_count topic).mpr absent, full]

/-- A topic that is not there is put after the others while there is room. -/
theorem Sound.subscribeSection_insert (sound : table.Sound bounds) {topic : List UInt8}
    (fits : topic.length < networkMaxTopic bounds) (absent : topic ∉ table.contents)
    (room : table.count < networkSubscriptionCapacity) :
    ∃ table', table.subscribeSection topic = some (some table') ∧ table'.Sound bounds ∧
      table'.count = table.count + 1 ∧ table'.contents = table.contents ++ [cString topic] := by
  have within : table.count < table.slots.length := sound.slots ▸ room
  have size : table.slots[table.count].length = networkMaxTopic bounds :=
    sound.sizes _ (List.getElem_mem within)
  obtain ⟨written, writes, length, terminated, holds⟩ := writeTopic_eq_some (size ▸ fits)
  refine ⟨⟨table.slots.set table.count written, table.count + 1⟩, ?_, ⟨?_, ?_, room, ?_⟩, rfl, ?_⟩
  · simp [subscribeSection, sound.findTopic_zero topic, (sound.idxOf_eq_count topic).mpr absent,
      Nat.not_le.mpr room, List.getElem?_eq_getElem within, writes]
  · exact List.length_set.trans sound.slots
  · intro slot member
    cases List.mem_or_eq_of_mem_set member with
    | inl old => exact sound.sizes slot old
    | inr new => rw [new, length, size]
  · intro slot member
    rw [take_set_succ written within, List.mem_append, List.mem_singleton] at member
    cases member with
    | inl old => exact sound.terminated slot old
    | inr new => exact new ▸ terminated
  · rw [contents, take_set_succ written within, List.map_append, List.map_singleton, holds]
    rfl

/-- The copy of a topic that is there holds its string. -/
theorem Sound.copySection_present (sound : table.Sound bounds) {topic : List UInt8}
    (present : topic ∈ table.contents) :
    ∃ topicCopy, table.copySection topic = some (some topicCopy) ∧ 0 ∈ topicCopy ∧
      cString topicCopy = topic := by
  have inside : table.contents.idxOf topic < table.count :=
    sound.length_contents ▸ List.idxOf_lt_length_of_mem present
  obtain ⟨slot, read, terminated, -, here⟩ := sound.slot inside
  refine ⟨slot, ?_, terminated, ?_⟩
  · simp [copySection, sound.findTopic_zero topic, Nat.ne_of_lt inside, read]
  · rw [List.drop_eq_getElem_cons (List.idxOf_lt_length_of_mem present)] at here
    simpa using (List.cons.inj here).1.symm

theorem Sound.copySection_absent (sound : table.Sound bounds) {topic : List UInt8}
    (absent : topic ∉ table.contents) : table.copySection topic = some none := by
  simp [copySection, sound.findTopic_zero topic, (sound.idxOf_eq_count topic).mpr absent]

/-- The slots after `index` move down by one; those before it stay. -/
theorem shiftDown_eq_some (moves : Nat) :
    ∀ (slots : List Slot) (index : Nat), index + 1 + moves ≤ slots.length →
      ∃ slots', shiftDown slots moves (index + 1) = some slots' ∧
        slots'.length = slots.length ∧ (∀ slot ∈ slots', slot ∈ slots) ∧
        slots'.take (index + moves) = slots.take index ++ (slots.drop (index + 1)).take moves := by
  induction moves with
  | zero => exact fun slots index within => ⟨slots, rfl, rfl, fun _ => id, by simp⟩
  | succ moves ih =>
      intro slots index within
      have next : index + 1 < slots.length := by omega
      obtain ⟨slots', shifts, length, members, kept⟩ :=
        ih (slots.set index slots[index + 1]) (index + 1) (by rw [List.length_set]; omega)
      refine ⟨slots', ?_, length.trans List.length_set, fun slot member => ?_, ?_⟩
      · simp [shiftDown, List.getElem?_eq_getElem next, shifts]
      · cases List.mem_or_eq_of_mem_set (members slot member) with
        | inl old => exact old
        | inr moved => exact moved ▸ List.getElem_mem next
      · rw [show index + (moves + 1) = index + 1 + moves by omega, kept,
          take_set_succ _ (by omega), List.drop_set_of_lt (by omega),
          List.drop_eq_getElem_cons next, List.take_succ_cons, List.append_assoc]
        rfl

theorem sameString_eq {slot other : Slot} (terminated : 0 ∈ slot) (terminated' : 0 ∈ other) :
    sameString slot other = some (decide (cString slot = cString other)) :=
  if_pos ⟨terminated, terminated'⟩

/-- The first slot with the copy's string goes, and the others close up. -/
theorem Sound.removeSection (sound : table.Sound bounds) {topicCopy : Slot}
    (terminated : 0 ∈ topicCopy) :
    ∀ left index, index + left = table.count →
      ∃ table', table.removeSection topicCopy left index = some table' ∧ table'.Sound bounds ∧
        table'.contents =
          table.contents.take index ++ (table.contents.drop index).erase (cString topicCopy) := by
  intro left
  induction left with
  | zero =>
      intro index whole
      have past : table.contents.length ≤ index := by
        rw [sound.length_contents]
        omega
      refine ⟨table, rfl, sound, ?_⟩
      rw [List.take_of_length_le past, List.drop_eq_nil_of_le past]
      simp
  | succ left ih =>
      intro index whole
      obtain ⟨slot, read, ends, -, here⟩ := sound.slot (show index < table.count by omega)
      rw [here]
      by_cases same : cString slot = cString topicCopy
      · have room : index + 1 + left ≤ table.slots.length := by
          rw [sound.slots]
          have := sound.count
          omega
        obtain ⟨slots', shifts, length, members, kept⟩ := shiftDown_eq_some left table.slots index room
        have inside : table.count - 1 < slots'.length := by omega
        have size : slots'[table.count - 1].length = networkMaxTopic bounds :=
          sound.sizes _ (members _ (List.getElem_mem inside))
        have used : (slots'.set (table.count - 1) (List.replicate (networkMaxTopic bounds) 0)).take
            (table.count - 1) = table.slots.take index ++ (table.slots.drop (index + 1)).take left := by
          rw [List.take_set_of_le (Nat.le_refl _), show table.count - 1 = index + left by omega, kept]
        have before : (table.slots.take table.count).take index = table.slots.take index := by
          rw [List.take_take, Nat.min_eq_left (by omega)]
        have after : (table.slots.take table.count).drop (index + 1) =
            (table.slots.drop (index + 1)).take left := by
          rw [List.drop_take, show table.count - (index + 1) = left by omega]
        refine ⟨⟨slots'.set (table.count - 1) (List.replicate (networkMaxTopic bounds) 0),
          table.count - 1⟩, ?_, ⟨?_, ?_, ?_, ?_⟩, ?_⟩
        · simp [SubscriptionTable.removeSection, read, sameString_eq ends terminated, same, shifts,
            List.getElem?_eq_getElem inside, size]
        · exact List.length_set.trans (length.trans sound.slots)
        · intro slot member
          cases List.mem_or_eq_of_mem_set member with
          | inl old => exact sound.sizes slot (members slot old)
          | inr new => rw [new, List.length_replicate]
        · exact (Nat.sub_le ..).trans sound.count
        · intro slot member
          rw [used, ← before, ← after] at member
          refine sound.terminated slot ?_
          cases List.mem_append.mp member with
          | inl early => exact List.mem_of_mem_take early
          | inr late => exact List.mem_of_mem_drop late
        · rw [same, List.erase_cons_head, contents, used, ← before, ← after, List.map_append,
            List.map_take, List.map_drop]
          rfl
      · obtain ⟨table', removes, sound', contents'⟩ := ih (index + 1) (by omega)
        refine ⟨table', ?_, sound', ?_⟩
        · simp [SubscriptionTable.removeSection, read, sameString_eq ends terminated, same, removes]
        · have found : table.contents[index]? = some (cString slot) := by
            rw [← List.head?_drop, here]
            rfl
          rw [contents', List.erase_cons_tail (by simpa using same), List.take_add_one, found]
          simp

theorem Sound.removeSection_eq (sound : table.Sound bounds) {topicCopy : Slot}
    (terminated : 0 ∈ topicCopy) :
    ∃ table', table.removeSection topicCopy table.count 0 = some table' ∧ table'.Sound bounds ∧
      table'.contents = table.contents.erase (cString topicCopy) := by
  simpa using sound.removeSection terminated table.count 0 (Nat.zero_add _)

/-! ## The list that the carrier's other properties read -/

/-- The critical section does to the strings what the list model of the carrier does. -/
theorem Sound.subscribeSection_refines (sound : table.Sound bounds) {s : MqttSystem}
    (same : s.carrier.subscriptions = table.contents) (client : s.carrier.mqttClient = true)
    {topic : List UInt8} (nonempty : topic ≠ []) (fits : topic.length < networkMaxTopic bounds) :
    ∃ result, table.subscribeSection topic = some result ∧
      (s.subscribeWait bounds topic).carrier.subscriptions = (result.getD table).contents := by
  by_cases present : topic ∈ table.contents
  · refine ⟨_, sound.subscribeSection_present present, ?_⟩
    simp [MqttSystem.subscribeWait, client, nonempty, fits, same, present]
  · by_cases full : networkSubscriptionCapacity ≤ table.count
    · refine ⟨_, sound.subscribeSection_full present full, ?_⟩
      simp [MqttSystem.subscribeWait, MqttSystem.subscribeReturns, client, nonempty, fits, same,
        present, sound.length_contents, full]
    · obtain ⟨table', inserts, -, -, contents'⟩ :=
        sound.subscribeSection_insert fits present (Nat.lt_of_not_le full)
      refine ⟨_, inserts, ?_⟩
      simp [MqttSystem.subscribeWait, client, nonempty, fits, same, present,
        sound.length_contents, full, contents']

end SubscriptionTable

end AxolotyEmbedded.Mqtt
