import PhoneAudio.Proofs.Layer.Delivery
import PhoneAudio.Proofs.Switchboard.Frame

/-!
# What the mailboxes of the layers hold

A switchboard works on the mailboxes of its layers only by sending to them; whatever else
happens there is a step at the mailboxes themselves. So after every run the mailboxes are
ones that a row of such steps leads to (`Served.run`), and what is known of all of these
holds of them.
-/

namespace PhoneAudio.Switchboard

variable {n : Nat} {s t : Switchboard n} {parts : List Part}

/-- The mailboxes, if there are any, have seen some row of steps and nothing else. -/
def Served (s : Switchboard n) : Prop :=
  ∀ desks, s.desks = some desks → ∃ steps, desks = (Desks.run steps).1

/-! ## Sending -/

theorem Touches.served (h : Touches parts s t) (hparts : Part.desks ∉ parts) (hs : s.Served) :
    t.Served := by
  intro desks hdesks
  have hsame : t.desks = s.desks := h.keeps .desks hparts
  exact hs desks (hsame.symm.trans hdesks)

/-- One more step at the mailboxes. -/
theorem Served.step (hs : s.Served) (operation : Desks.Operation)
    (h : t.desks = s.desks.map fun desks => (desks.perform operation).1) : t.Served := by
  intro desks hdesks
  rw [h] at hdesks
  obtain ⟨before, hbefore, rfl⟩ := Option.map_eq_some_iff.mp hdesks
  obtain ⟨steps, rfl⟩ := hs before hbefore
  exact ⟨steps ++ [operation], by rw [Desks.run_concat]⟩

theorem Served.sendMode (hs : s.Served) (message : Mode.Message) : (s.sendMode message).Served :=
  hs.step (.mode (.send (message, s.snapshot))) rfl

theorem Served.sendRoute (hs : s.Served) (request : Route.Request) :
    (s.sendRoute request).Served :=
  hs.step (.route (.send request)) rfl

theorem Served.atDesks (hs : s.Served) (operation : Desks.Operation) :
    (s.atDesks operation).1.Served := by
  unfold Switchboard.atDesks
  split
  · exact hs
  next desks hdesks =>
    refine hs.step operation ?_
    rw [hdesks]
    rfl

/-! ## The parts of an operation -/

theorem Served.autoSpeaker (hs : s.Served) : s.autoSpeaker.Served := by
  unfold Switchboard.autoSpeaker
  split
  · exact hs
  · exact hs.sendRoute .autoSpeaker

theorem Served.toggleMute (hs : s.Served) : s.toggleMute.Served := by
  unfold Switchboard.toggleMute
  split
  · exact hs
  · exact hs.sendRoute .toggleMute

theorem Served.setRoute (hs : s.Served) (route : Route) (address : Option String) :
    (s.setRoute route address).Served := by
  unfold Switchboard.setRoute
  split
  · exact hs.sendRoute _
  · exact hs

theorem Served.setRouteNumber (hs : s.Served) (value : Int) (address : Option String) :
    (s.setRouteNumber value address).Served := by
  unfold Switchboard.setRouteNumber
  split
  · exact hs.setRoute _ address
  · exact hs

theorem Served.setTonePlaying (hs : s.Served) (on : Bool) : (s.setTonePlaying on).Served := by
  have hsent : ({ s with tonePlaying := on }.sendMode
      (if on then .toneStarted else .toneStopped)).Served :=
    Served.sendMode (s := { s with tonePlaying := on }) hs _
  unfold Switchboard.setTonePlaying
  dsimp only
  generalize { s with tonePlaying := on }.sendMode
    (if on then .toneStarted else .toneStopped) = t at hsent ⊢
  split <;> exact hsent

theorem Served.silenceRingers (hs : s.Served) : s.silenceRingers.Served := by
  have hsilenced := (touches_silence s s.roster.ringing).served (by decide) hs
  unfold Switchboard.silenceRingers
  dsimp only
  refine (touches_fallQuiet _).served (by decide) ?_
  split
  · exact hsilenced.sendMode _
  · exact hsilenced

theorem Served.updateFront (hs : s.Served) : s.updateFront.Served := by
  unfold Switchboard.updateFront
  dsimp only
  split
  · exact hs
  · refine ((touches_frontChanged _ _ _).trans (touches_adjustHoldTone _)).served (by decide) ?_
    exact Served.sendRoute (s := { s with front := _ }) hs .update

theorem Served.endCarrierMode (hs : s.Served) : s.endCarrierMode.Served := by
  unfold Switchboard.endCarrierMode
  dsimp only
  split
  · exact Served.setRoute (s := { s with carrierMode := false }) hs .earpiece none
  · exact hs

theorem Served.enter (hs : s.Served) (place : Fin n) (state : Call.State) :
    (s.enter place state).Served := by
  have hringing : (s.enterRinging place).Served := by
    unfold enterRinging
    dsimp only
    split
    · exact Served.setRoute (s := { s with
        carrierMode := (s.call place).carrierRing
        carrierMedia := some (s.call place).ringMedia }) hs .speaker none
    · exact hs
  unfold Switchboard.enter
  split
  · exact hringing
  · exact hringing
  · split <;> exact hs
  · exact hs

/-- What is told at the end of a word. -/
theorem Served.close (hs : s.Served) (before : Headcount) :
    (s.tellCrossings before).adjustHoldTone.Served := by
  refine (touches_adjustHoldTone _).served (by decide) ?_
  unfold tellCrossings
  generalize Crossing.between before s.roster.headcount = told
  induction told generalizing s with
  | nil => exact hs
  | cons crossing rest ih => exact ih (hs.sendMode (.crossing crossing))

/-! ## Words -/

theorem Served.track (hs : s.Served) (place : Fin n) : (s.track place).Served := by
  unfold Switchboard.track
  split
  · exact hs
  · refine (Served.enter ?_ place _).close _
    refine ((touches_tracked _ _).trans (touches_updatePresence _)).served (by decide) ?_
    exact ((touches_seat s place _).served (by decide) hs).updateFront

theorem Served.untrack (hs : s.Served) (place : Fin n) : (s.untrack place).Served := by
  unfold Switchboard.untrack
  dsimp only
  split
  · refine Served.close ?_ _
    refine (((touches_tracked _ _).trans (touches_updatePresence _)).trans
      (touches_leave _ place _)).served (by decide) ?_
    exact ((touches_roster s _).served (by decide) hs).updateFront
  · exact hs

theorem Served.stateChanged (hs : s.Served) (place : Fin n) (old new : Call.State) :
    (s.stateChanged place old new).Served := by
  unfold Switchboard.stateChanged
  split
  · exact hs
  · dsimp only
    have hseated := (((touches_roster s (s.roster.erase s.ident (s.ident place))).trans
      (touches_seat _ place new)).trans (touches_updatePresence _)).served (by decide) hs
    have hplayed := (touches_playChangeTones _ place old new).served (by decide)
      hseated.updateFront
    refine (((touches_leave _ place old).served (by decide) ?_).enter place new).close _
    split
    · exact hplayed.endCarrierMode
    · exact hplayed

theorem Served.added (hs : s.Served) (place : Fin n) : (s.added place).Served := by
  unfold Switchboard.added
  split
  · exact hs
  · exact hs.track place

theorem Served.removed (hs : s.Served) (place : Fin n) : (s.removed place).Served := by
  unfold Switchboard.removed
  split
  · exact hs
  · exact hs.untrack place

theorem Served.externalChanged (hs : s.Served) (place : Fin n) (external : Bool) :
    (s.externalChanged place external).Served := by
  unfold Switchboard.externalChanged
  split
  · exact hs.untrack place
  · dsimp only
    split
    · exact (hs.track place).autoSpeaker
    · exact hs.track place

theorem Served.conferenceChanged (hs : s.Served) (place : Fin n) :
    (s.conferenceChanged place).Served := by
  unfold Switchboard.conferenceChanged
  split
  · exact hs.added place
  · exact hs.untrack place

theorem Served.answered (hs : s.Served) (place : Fin n) : (s.answered place).Served := by
  unfold Switchboard.answered
  split
  · refine (touches_quietUnlessOthersRing _ place).served (by decide) ?_
    split
    · exact hs
    · exact hs.sendRoute _
  · exact hs

theorem Served.voipChanged (hs : s.Served) (place : Fin n) : (s.voipChanged place).Served := by
  unfold Switchboard.voipChanged
  split
  · exact hs.sendMode _
  · exact hs

theorem Served.videoChanged (hs : s.Served) (place : Fin n) (old new : Video) :
    (s.videoChanged place old new).Served := by
  unfold Switchboard.videoChanged
  split
  · exact hs.autoSpeaker
  · exact hs

/-! ## Operations -/

theorem Served.perform (hs : s.Served) (operation : Operation n) :
    (s.perform operation).1.Served := by
  cases operation with
  | added place => exact hs.added place
  | removed place => exact hs.removed place
  | moved place state =>
    exact ((touches_revise s place (.state state)).served (by decide) hs).stateChanged place _ state
  | stateChanged place old new => exact hs.stateChanged place old new
  | externalChanged place external => exact hs.externalChanged place external
  | conferenceChanged place => exact hs.conferenceChanged place
  | answered place => exact hs.answered place
  | voipChanged place => exact hs.voipChanged place
  | connectionChanged => exact hs.sendRoute .update
  | videoChanged place old new => exact hs.videoChanged place old new
  | mute on => exact hs.sendRoute _
  | toggleMute => exact hs.toggleMute
  | setRoute route address => exact hs.setRoute route address
  | setRouteNumber value address => exact hs.setRouteNumber value address
  | switchBaseline => exact hs.sendRoute _
  | setFocus focus => exact hs.sendRoute _
  | ringerModeChanged => exact hs.sendMode _
  | operationsComplete => exact hs.sendMode _
  | setTonePlaying on => exact hs.setTonePlaying on
  | silenceRingers => exact hs.silenceRingers
  | desks operation => exact hs.atDesks operation
  | _ => exact (touches_perform s _).served (by simp [Operation.parts]) hs

theorem Served.run (hs : s.Served) (operations : List (Operation n)) :
    (s.run operations).Served := by
  induction operations generalizing s with
  | nil => exact hs
  | cons operation rest ih => exact ih (hs.perform operation)

end PhoneAudio.Switchboard
