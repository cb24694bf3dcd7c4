import Mathlib.Data.List.Nodup
import PhoneAudio.Proofs.Switchboard.Frame

/-!
# The ledger of the tracked calls

What the owners say about their calls, folded into one list with no look at the
switchboard: a call that joins is entered at the end, one that moves to another
state is struck and entered at the end again, and one that leaves is struck. A
word about a call that is ignored, a second word that a call joined, and a word
about a call that never joined are not taken in.

The ledger reads the attributes of the calls as they are when a word is said, and
nothing else.
-/

namespace PhoneAudio

/-! ## Entries and words -/

/-- A tracked call as the last word about it left it. -/
structure Ledger.Entry where
  id : CallId
  state : Call.State
  speedUp : Bool
deriving DecidableEq

namespace Ledger

/-- The entry of a call in a state that it was told to be in. -/
def Entry.of (call : Call) (state : Call.State) : Entry :=
  ⟨call.id, state, call.traits.speedUpAnswer⟩

def Entry.group? (entry : Entry) : Option Group := Group.ofState? entry.state entry.speedUp

/-- What is said about a call. -/
inductive Word where
  | joined (entry : Entry)
  | moved (entry : Entry)
  | left (id : CallId)

/-- The entries of all other calls. -/
def others (entries : List Entry) (id : CallId) : List Entry :=
  entries.filter fun entry => entry.id != id

/-- The calls of a group, in the order of their entries. -/
def members (entries : List Entry) (group : Group) : List CallId :=
  (entries.filter fun entry => entry.group? = some group).map Entry.id

theorem map_id_others (entries : List Entry) (id : CallId) :
    (others entries id).map Entry.id = (entries.map Entry.id).filter (· != id) := by
  simp [others, List.filter_map, Function.comp_def]

theorem members_others (entries : List Entry) (id : CallId) (group : Group) :
    members (others entries id) group = (members entries group).filter (· != id) := by
  simp [members, others, List.filter_map, List.filter_filter, Function.comp_def, Bool.and_comm]

theorem members_concat (entries : List Entry) (entry : Entry) (group : Group) :
    members (entries ++ [entry]) group =
      if entry.group? = some group then members entries group ++ [entry.id]
      else members entries group := by
  simp only [members, List.filter_append, List.map_append]
  split
  next h => simp [h]
  next h => simp [h]

theorem members_subset (entries : List Entry) (group : Group) :
    members entries group ⊆ entries.map Entry.id :=
  List.map_subset _ List.filter_sublist.subset

end Ledger

/-! ## The ledger -/

/-- The entries, and the calls in the order in which they joined. No call has two
entries. -/
structure Ledger where
  entries : List Ledger.Entry
  arrivals : List CallId
  perm : arrivals.Perm (entries.map Ledger.Entry.id)
  nodup : arrivals.Nodup

namespace Ledger

def empty : Ledger := ⟨[], [], .nil, .nil⟩

theorem mem_arrivals (ledger : Ledger) (id : CallId) :
    id ∈ ledger.arrivals ↔ id ∈ ledger.entries.map Entry.id :=
  ledger.perm.mem_iff

theorem nodup_ids (ledger : Ledger) : (ledger.entries.map Entry.id).Nodup :=
  ledger.perm.nodup_iff.mp ledger.nodup

/-- No call is in two groups. -/
theorem disjoint_members (ledger : Ledger) {group other : Group} (h : group ≠ other) :
    (members ledger.entries group).Disjoint (members ledger.entries other) := by
  intro id hfirst hsecond
  obtain ⟨first, hfilter, rfl⟩ := List.mem_map.mp hfirst
  obtain ⟨second, hfilter', hid⟩ := List.mem_map.mp hsecond
  obtain ⟨hfirst, hgroup⟩ := List.mem_filter.mp hfilter
  obtain ⟨hsecond, hother⟩ := List.mem_filter.mp hfilter'
  obtain rfl : second = first := List.inj_on_of_nodup_map ledger.nodup_ids hsecond hfirst hid
  have hboth : some group = some other :=
    (of_decide_eq_true hgroup).symm.trans (of_decide_eq_true hother)
  exact h (Option.some.inj hboth)

theorem nodup_members (ledger : Ledger) (group : Group) :
    (members ledger.entries group).Nodup :=
  (List.filter_sublist.map Entry.id).nodup ledger.nodup_ids

/-- A new call is entered at the end. -/
def join (ledger : Ledger) (entry : Entry) (h : entry.id ∉ ledger.arrivals) : Ledger where
  entries := ledger.entries ++ [entry]
  arrivals := ledger.arrivals ++ [entry.id]
  perm := by
    rw [List.map_append]
    exact ledger.perm.append_right _
  nodup := by
    refine List.nodup_append.mpr ⟨ledger.nodup, by simp, ?_⟩
    intro id hid other hother hsame
    rw [List.mem_singleton.mp hother] at hsame
    exact h (hsame ▸ hid)

/-- A known call is entered at the end again, and keeps its place among the arrivals. -/
def move (ledger : Ledger) (entry : Entry) (h : entry.id ∈ ledger.arrivals) : Ledger where
  entries := others ledger.entries entry.id ++ [entry]
  arrivals := ledger.arrivals
  perm := by
    have hrest : (ledger.arrivals.erase entry.id).Perm
        ((others ledger.entries entry.id).map Entry.id) := by
      rw [ledger.nodup.erase_eq_filter, map_id_others]
      exact ledger.perm.filter _
    rw [List.map_append]
    exact ((List.perm_cons_erase h).trans (hrest.cons _)).trans
      (List.perm_append_singleton _ _).symm
  nodup := ledger.nodup

/-- The entry of a call is struck. -/
def leave (ledger : Ledger) (id : CallId) : Ledger where
  entries := others ledger.entries id
  arrivals := ledger.arrivals.filter (· != id)
  perm := by
    rw [map_id_others]
    exact ledger.perm.filter _
  nodup := ledger.nodup.filter _

/-- A call joins if it is new, and moves or leaves if it is not. -/
def accepts (ledger : Ledger) : Word → Bool
  | .joined entry => entry.id ∉ ledger.arrivals
  | .moved entry => entry.id ∈ ledger.arrivals
  | .left id => id ∈ ledger.arrivals

theorem accepts_joined (ledger : Ledger) (entry : Entry) :
    ledger.accepts (.joined entry) = false ↔ entry.id ∈ ledger.arrivals := by
  simp [accepts]

theorem accepts_moved (ledger : Ledger) (entry : Entry) :
    ledger.accepts (.moved entry) = false ↔ entry.id ∉ ledger.arrivals := by
  simp [accepts]

theorem accepts_left (ledger : Ledger) (id : CallId) :
    ledger.accepts (.left id) = false ↔ id ∉ ledger.arrivals := by
  simp [accepts]

/-- Takes in a word; one that is not accepted changes nothing. -/
def take (ledger : Ledger) : Word → Ledger
  | .joined entry => if h : entry.id ∈ ledger.arrivals then ledger else ledger.join entry h
  | .moved entry => if h : entry.id ∈ ledger.arrivals then ledger.move entry h else ledger
  | .left id => if id ∈ ledger.arrivals then ledger.leave id else ledger

theorem take_of_not_accepts {ledger : Ledger} {word : Word} (h : ledger.accepts word = false) :
    ledger.take word = ledger := by
  cases word with
  | joined entry => exact dif_pos ((ledger.accepts_joined entry).mp h)
  | moved entry => exact dif_neg ((ledger.accepts_moved entry).mp h)
  | left id => exact if_neg ((ledger.accepts_left id).mp h)

end Ledger

namespace Switchboard

variable {n : Nat}

/-- A word about a call, unless the call is a conference child or an external call. -/
def wordUnlessIgnored (call : Call) (word : Ledger.Word) : Option Ledger.Word :=
  if call.isIgnored then none else some word

/-- The word that an operation has about a call, as the calls stand before it. That a
call went to another device or came back, or joined a conference, is heard of any call. -/
def Operation.word? (calls : CallTable n) : Operation n → Option Ledger.Word
  | .added place =>
    wordUnlessIgnored (calls.get place) (.joined (.of (calls.get place) (calls.get place).state))
  | .removed place => wordUnlessIgnored (calls.get place) (.left (calls.id place))
  | .moved place state =>
    wordUnlessIgnored (calls.get place) (.moved (.of (calls.get place) state))
  | .stateChanged place _ new =>
    wordUnlessIgnored (calls.get place) (.moved (.of (calls.get place) new))
  | .externalChanged place external =>
    some (if external then .left (calls.id place)
      else .joined (.of (calls.get place) (calls.get place).state))
  | .conferenceChanged place =>
    if (calls.get place).parent.isNone then
      wordUnlessIgnored (calls.get place) (.joined (.of (calls.get place) (calls.get place).state))
    else some (.left (calls.id place))
  | _ => none

/-- The operations by which an owner tells about a call's life. -/
def Operation.isNotice : Operation n → Bool
  | .added _ => true
  | .removed _ => true
  | .moved _ _ => true
  | .stateChanged _ _ _ => true
  | .externalChanged _ _ => true
  | .conferenceChanged _ => true
  | _ => false

end Switchboard

namespace Ledger

variable {n : Nat}

/-- The ledger after one operation on a switchboard. -/
def hear (ledger : Ledger) (calls : CallTable n) (operation : Switchboard.Operation n) : Ledger :=
  match operation.word? calls with
  | some word => ledger.take word
  | none => ledger

/-- The ledger after a run from a state; of the states it reads the calls alone. -/
def follow (ledger : Ledger) (s : Switchboard n) : List (Switchboard.Operation n) → Ledger
  | [] => ledger
  | operation :: rest =>
    (ledger.hear s.alerter.calls operation).follow (s.perform operation).1 rest

theorem hear_of_some {ledger : Ledger} {calls : CallTable n}
    {operation : Switchboard.Operation n} {word : Word} (h : operation.word? calls = some word) :
    ledger.hear calls operation = ledger.take word := by
  rw [hear, h]

theorem hear_of_none {ledger : Ledger} {calls : CallTable n}
    {operation : Switchboard.Operation n} (h : operation.word? calls = none) :
    ledger.hear calls operation = ledger := by
  rw [hear, h]

/-- A word about a call that is not taken in. -/
def ignores (ledger : Ledger) (calls : CallTable n) (operation : Switchboard.Operation n) : Bool :=
  operation.isNotice && !(operation.word? calls).any ledger.accepts

/-- Whatever an operation says about a call, the ledger does not take it in. -/
def Refuses (ledger : Ledger) (calls : CallTable n) (operation : Switchboard.Operation n) : Prop :=
  ∀ word, operation.word? calls = some word → ledger.accepts word = false

theorem refuses_of_ignores {ledger : Ledger} {calls : CallTable n}
    {operation : Switchboard.Operation n} (h : ledger.ignores calls operation = true) :
    ledger.Refuses calls operation := by
  intro word hword
  simp only [ignores, hword, Option.any_some, Bool.and_eq_true, Bool.not_eq_true'] at h
  exact h.2

theorem Refuses.hear {ledger : Ledger} {calls : CallTable n}
    {operation : Switchboard.Operation n} (h : ledger.Refuses calls operation) :
    ledger.hear calls operation = ledger := by
  cases hword : operation.word? calls with
  | none => exact hear_of_none hword
  | some word =>
    rw [hear_of_some hword]
    exact take_of_not_accepts (h word hword)

end Ledger

end PhoneAudio
