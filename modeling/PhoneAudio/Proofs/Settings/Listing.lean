import PhoneAudio.Fault
import PhoneAudio.Proofs.Json.Reading
import PhoneAudio.Proofs.Json.Record
import PhoneAudio.Proofs.Number.Single
import PhoneAudio.Settings.Decode

/-!
# What a settings text gives

A settings text is an object that lists some of the settings. Which values a setting may be
given is said here for each of them without the decoders (`Field.Gives`), and so is what it
is for an object to list some settings among members of other names (`Lists`). An object that
does is decoded to the listed values, with the usual value wherever nothing is listed
(`ofJson?_of_lists`).

A text that is written by the grammar is read as its object, so what comes of it depends on
the growing ring alone: it is the one setting with a range, and its volume is looked at
before its duration (`ofText?_of_lists`).
-/

namespace PhoneAudio

/-! ## Values -/

namespace Json

/-- A flag. -/
def GivesFlag (json : Json) (flag : Bool) : Prop := json = .bool flag

/-- A text. -/
def GivesText (json : Json) (text : String) : Prop := json = .string (some text)

/-- A word of a vocabulary: its spelling alone, or as a name with nothing to carry. -/
def GivesWord {α : Type} [Text.Vocabulary α] (json : Json) (word : α) : Prop :=
  json = .string (some (Text.Vocabulary.spell word)) ∨
    json = objectOf [(Text.Vocabulary.spell word, .null)]

/-- A volume: a numeral within the range of doubles, and the single-precision number that it
stands for. -/
def GivesVolume (json : Json) (volume : Number.Single) : Prop :=
  ∃ numeral, json = .number numeral ∧ numeral.single? = some volume

/-- A count of thirty-two bits: digits without a sign, a point or an exponent. -/
def GivesCount (json : Json) (count : Nat) : Prop :=
  ∃ digits, json = .number ⟨false, digits, none, none⟩ ∧ Text.ofDigits digits = count ∧
    count < 2 ^ 32

/-- A value that may be missing: null, or a value that is there. -/
inductive GivesOption {α : Type} (gives : Json → α → Prop) : Json → Option α → Prop
  | null : GivesOption gives .null none
  | some {json : Json} {value : α} (h : gives json value) : GivesOption gives json (some value)

theorem bool?_of_gives {json : Json} {flag : Bool} (h : GivesFlag json flag) :
    bool? json = some flag := by
  rw [h]
  rfl

theorem text?_of_gives {json : Json} {text : String} (h : GivesText json text) :
    text? json = some text := by
  rw [h]
  rfl

theorem word?_of_gives {α : Type} [Text.Vocabulary α] {json : Json} {word : α}
    (hread : Text.Vocabulary.read? (Text.Vocabulary.spell word) = some word)
    (h : GivesWord json word) : word? json = some word := by
  rcases h with rfl | rfl <;> simpa [word?, choice?, objectOf, isBare] using hread

theorem single?_of_gives {json : Json} {volume : Number.Single} (h : GivesVolume json volume) :
    single? json = some volume := by
  obtain ⟨numeral, rfl, hnumeral⟩ := h
  exact hnumeral

theorem below?_of_gives {json : Json} {count : Nat} (h : GivesCount json count) :
    below? UInt32.size json = some count := by
  obtain ⟨digits, rfl, rfl, hcount⟩ := h
  have hsize : Text.ofDigits digits < UInt32.size := hcount
  simp [below?, Numeral.below?, Numeral.isWhole, Numeral.size, hsize]

/-- Null stands for what is missing, unless it is a value itself. -/
theorem nullable?_of_gives {α : Type} {gives : Json → α → Prop} {decode : Decoder α} {json : Json}
    {value : Option α} (hdecode : ∀ {json value}, gives json value → decode json = some value)
    (hnull : ∀ value, ¬gives .null value) (h : GivesOption gives json value) :
    nullable? decode json = some value := by
  cases h with
  | null => rfl
  | some h =>
    cases json with
    | null => exact absurd h (hnull _)
    | _ => simp [nullable?, hdecode h]

end Json

open Json

/-- A growing ring: an object with its two fields once each, among members of other names, or
a list of the two. -/
inductive Crescendo.Gives : Json → Crescendo → Prop
  | members {members : List (String × Json)} {ring : Crescendo} {volume count : Json}
      (hstart : given members "start_volume" = [volume])
      (hseconds : given members "ramp_up_secs" = [count]) (hvolume : GivesVolume volume ring.start)
      (hcount : GivesCount count ring.seconds) : Gives (objectOf members) ring
  | list {ring : Crescendo} {volume count : Json} (hvolume : GivesVolume volume ring.start)
      (hcount : GivesCount count ring.seconds) : Gives (.array [volume, count]) ring

theorem Crescendo.ofJson?_of_gives {json : Json} {ring : Crescendo}
    (h : Crescendo.Gives json ring) : Crescendo.ofJson? json = some ring := by
  cases h with
  | @members members _ _ _ hstart hseconds hvolume hcount =>
    have hrecord : record? ["start_volume", "ramp_up_secs"] false (objectOf members) = _ :=
      record?_objectOf false (by simp [hstart, hseconds])
    simp [Crescendo.ofJson?, hrecord, Record.required, hstart, hseconds,
      single?_of_gives hvolume, below?_of_gives hcount]
  | list hvolume hcount =>
    simp [Crescendo.ofJson?, record?, Record.required, List.lookup_cons,
      single?_of_gives hvolume, below?_of_gives hcount]

/-! ## Fields -/

namespace Settings

/-- The settings. -/
inductive Field where
  | pattern
  | customPattern
  | vibrateWhenRinging
  | rampingRinger
  | coupledVibration
  | crescendo
  | flashOnRing
  | tapOnWaiting
  | theaterMode
  | connectedTone
  | vibrateOnConnect
deriving DecidableEq

namespace Field

def all : List Field :=
  [pattern, customPattern, vibrateWhenRinging, rampingRinger, coupledVibration, crescendo,
    flashOnRing, tapOnWaiting, theaterMode, connectedTone, vibrateOnConnect]

/-- The name under which a text lists a setting. -/
def name : Field → String
  | pattern => "vibration_pattern"
  | customPattern => "custom_vibration_pattern"
  | vibrateWhenRinging => "vibrate_when_ringing"
  | rampingRinger => "ramping_ringer"
  | coupledVibration => "audio_coupled_vibration_for_ramping"
  | crescendo => "increasing_ring"
  | flashOnRing => "flash_on_ring"
  | tapOnWaiting => "incall_feedback_vibrate"
  | theaterMode => "theater_mode"
  | connectedTone => "call_connected_tone"
  | vibrateOnConnect => "vibrate_on_outgoing_connect"

/-- What a setting is a value of. -/
abbrev Value : Field → Type
  | pattern => Vibration.Pattern
  | customPattern => Option String
  | crescendo => Option Crescendo
  | connectedTone => Option Bool
  | vibrateWhenRinging => Bool
  | rampingRinger => Bool
  | coupledVibration => Bool
  | flashOnRing => Bool
  | tapOnWaiting => Bool
  | theaterMode => Bool
  | vibrateOnConnect => Bool

/-- The values that a setting may be given. -/
def Gives : (field : Field) → Json → field.Value → Prop
  | pattern => GivesWord
  | customPattern => GivesOption GivesText
  | crescendo => GivesOption Crescendo.Gives
  | connectedTone => GivesOption GivesFlag
  | vibrateWhenRinging => GivesFlag
  | rampingRinger => GivesFlag
  | coupledVibration => GivesFlag
  | flashOnRing => GivesFlag
  | tapOnWaiting => GivesFlag
  | theaterMode => GivesFlag
  | vibrateOnConnect => GivesFlag

def decoder : (field : Field) → Decoder field.Value
  | pattern => word?
  | customPattern => nullable? text?
  | crescendo => nullable? Crescendo.ofJson?
  | connectedTone => nullable? bool?
  | vibrateWhenRinging => bool?
  | rampingRinger => bool?
  | coupledVibration => bool?
  | flashOnRing => bool?
  | tapOnWaiting => bool?
  | theaterMode => bool?
  | vibrateOnConnect => bool?

theorem decoder_of_gives {field : Field} {json : Json} {value : field.Value}
    (h : field.Gives json value) : field.decoder json = some value := by
  cases field with
  | pattern => exact word?_of_gives (by cases value <;> decide) h
  | customPattern =>
    refine nullable?_of_gives text?_of_gives ?_ h
    rintro text ⟨⟩
  | crescendo =>
    refine nullable?_of_gives Crescendo.ofJson?_of_gives ?_ h
    rintro ring ⟨⟩
  | connectedTone =>
    refine nullable?_of_gives bool?_of_gives ?_ h
    rintro flag ⟨⟩
  | _ => exact bool?_of_gives h

end Field

/-- What the settings have in a field. -/
def get (settings : Settings) : (field : Field) → field.Value
  | .pattern => settings.pattern
  | .customPattern => settings.customPattern
  | .vibrateWhenRinging => settings.vibrateWhenRinging
  | .rampingRinger => settings.rampingRinger
  | .coupledVibration => settings.coupledVibration
  | .crescendo => settings.crescendo
  | .flashOnRing => settings.flashOnRing
  | .tapOnWaiting => settings.tapOnWaiting
  | .theaterMode => settings.theaterMode
  | .connectedTone => settings.connectedTone
  | .vibrateOnConnect => settings.vibrateOnConnect

/-- The settings with a value in every field. -/
def ofFields (values : (field : Field) → field.Value) : Settings where
  pattern := values .pattern
  customPattern := values .customPattern
  vibrateWhenRinging := values .vibrateWhenRinging
  rampingRinger := values .rampingRinger
  coupledVibration := values .coupledVibration
  crescendo := values .crescendo
  flashOnRing := values .flashOnRing
  tapOnWaiting := values .tapOnWaiting
  theaterMode := values .theaterMode
  connectedTone := values .connectedTone
  vibrateOnConnect := values .vibrateOnConnect

@[simp] theorem get_ofFields (values : (field : Field) → field.Value) (field : Field) :
    (ofFields values).get field = values field := by
  cases field <;> rfl

/-- The names that are looked for are those of the settings. -/
theorem fieldNames_eq : fieldNames = Field.all.map Field.name := rfl

/-- A record is decoded field by field. -/
theorem ofRecord?_eq {record : Record} {values : (field : Field) → field.Value}
    (h : ∀ field : Field,
      record.orElse field.name (({} : Settings).get field) field.decoder = some (values field)) :
    ofRecord? record = some (ofFields values) := by
  rw [ofRecord?]
  refine Option.bind_eq_some_iff.mpr ⟨_, h .pattern, ?_⟩
  refine Option.bind_eq_some_iff.mpr ⟨_, h .customPattern, ?_⟩
  refine Option.bind_eq_some_iff.mpr ⟨_, h .vibrateWhenRinging, ?_⟩
  refine Option.bind_eq_some_iff.mpr ⟨_, h .rampingRinger, ?_⟩
  refine Option.bind_eq_some_iff.mpr ⟨_, h .coupledVibration, ?_⟩
  refine Option.bind_eq_some_iff.mpr ⟨_, h .crescendo, ?_⟩
  refine Option.bind_eq_some_iff.mpr ⟨_, h .flashOnRing, ?_⟩
  refine Option.bind_eq_some_iff.mpr ⟨_, h .tapOnWaiting, ?_⟩
  refine Option.bind_eq_some_iff.mpr ⟨_, h .theaterMode, ?_⟩
  refine Option.bind_eq_some_iff.mpr ⟨_, h .connectedTone, ?_⟩
  refine Option.bind_eq_some_iff.mpr ⟨_, h .vibrateOnConnect, ?_⟩
  rfl

/-! ## Listings -/

/-- The values that a text lists, and for which settings it lists none. -/
abbrev Listing := (field : Field) → Option field.Value

/-- The members of an object list some settings, once each and with values that these may be
given, in any order and among any members of other names. -/
structure Lists (members : List (String × Json)) (listing : Listing) : Prop where
  missing : ∀ field, listing field = none → given members field.name = []
  listed : ∀ field value, listing field = some value →
    ∃ json, given members field.name = [json] ∧ field.Gives json value

/-- The listed values, and the usual ones where none is listed. -/
def ofListing (listing : Listing) : Settings :=
  ofFields fun field => (listing field).getD (({} : Settings).get field)

theorem ofJson?_of_lists {members : List (String × Json)} {listing : Listing}
    (h : Lists members listing) : ofJson? (objectOf members) = some (ofListing listing) := by
  have honce : ∀ name ∈ fieldNames, (given members name).length ≤ 1 := by
    intro name hmem
    obtain ⟨field, -, rfl⟩ := List.mem_map.mp (fieldNames_eq ▸ hmem)
    cases hlisting : listing field with
    | none => simp [h.missing field hlisting]
    | some value =>
      obtain ⟨json, hgiven, -⟩ := h.listed field value hlisting
      simp [hgiven]
  rw [ofJson?, record?_objectOf true honce, Option.bind_some]
  refine ofRecord?_eq fun field => ?_
  cases hlisting : listing field with
  | none => simp [Record.orElse, h.missing field hlisting]
  | some value =>
    obtain ⟨json, hgiven, hgives⟩ := h.listed field value hlisting
    simp [Record.orElse, hgiven, Field.decoder_of_gives hgives]

/-! ## Texts -/

/-- The volume at which a ring starts lies between zero and one. -/
def StartsInRange (ring : Crescendo) : Prop :=
  ∃ volume, ring.start.value? = some volume ∧ 0 ≤ volume ∧ volume ≤ 1

/-- A text is refused as a configuration, and the field is to blame. -/
def Refuses (text field : String) : Prop :=
  ∃ flaw, ofText? text = .error flaw ∧ (Fault.configuration flaw).kind = "InvalidConfiguration" ∧
    flaw.fieldName = field

/-- What comes of a written text depends on the range check alone. -/
theorem ofText?_eq {text : String} {members : List (String × Json)} {listing : Listing}
    (hwritten : WritesText (objectOf members) text) (hlists : Lists members listing) :
    ofText? text =
      match (ofListing listing).flaw? with
      | some flaw => .error flaw
      | none => .ok (ofListing listing) := by
  cases hflaw : (ofListing listing).flaw? <;>
    simp [ofText?, read?_of_writes hwritten, ofJson?_of_lists hlists, hflaw]

/-- A text that lists some of the settings is read, the missing ones take their usual values,
and the growing ring is checked. If it is missing or null, or starts with a volume from zero
to one and takes at least a second, then the settings have the listed values and the usual
ones in the other fields. If not, the volume is to blame if it is out of range, and the
duration otherwise. -/
theorem ofText?_of_lists {text : String} {members : List (String × Json)} {listing : Listing}
    (hwritten : WritesText (objectOf members) text) (hlists : Lists members listing) :
    ((∀ ring, listing .crescendo = some (some ring) → StartsInRange ring ∧ 1 ≤ ring.seconds) →
      ∃ settings, ofText? text = .ok settings ∧
        ∀ field, settings.get field = (listing field).getD (({} : Settings).get field)) ∧
    ∀ ring, listing .crescendo = some (some ring) →
      (¬StartsInRange ring → Refuses text "increasing_ring.start_volume") ∧
      (StartsInRange ring → ring.seconds = 0 → Refuses text "increasing_ring.ramp_up_secs") := by
  have htext := ofText?_eq hwritten hlists
  have hring : (ofListing listing).crescendo = (listing .crescendo).getD none := rfl
  have hrange : ∀ ring : Crescendo, ring.start.inUnit = true ↔ StartsInRange ring :=
    fun ring => ring.start.inUnit_iff
  constructor
  · intro hsound
    refine ⟨ofListing listing, ?_, fun field => get_ofFields _ field⟩
    have hflaw : (ofListing listing).flaw? = none := by
      unfold flaw?
      split
      · rfl
      next ring hcrescendo =>
        obtain ⟨hvolume, hduration⟩ := hsound ring (by
          rw [hring] at hcrescendo
          cases hlisted : listing .crescendo with
          | none => simp [hlisted] at hcrescendo
          | some value => simpa [hlisted] using hcrescendo)
        rw [(hrange ring).mpr hvolume]
        simp [Nat.ne_of_gt hduration]
    rw [htext, hflaw]
  · intro ring hlisted
    rw [hlisted, Option.getD_some] at hring
    constructor
    · intro hvolume
      have hflaw : (ofListing listing).flaw? = some .startVolume := by
        have hnot : ring.start.inUnit = false := Bool.eq_false_iff.mpr (mt (hrange ring).mp hvolume)
        simp [flaw?, hring, hnot]
      exact ⟨.startVolume, by rw [htext, hflaw], rfl, rfl⟩
    · intro hvolume hduration
      have hflaw : (ofListing listing).flaw? = some .duration := by
        simp [flaw?, hring, (hrange ring).mpr hvolume, hduration]
      exact ⟨.duration, by rw [htext, hflaw], rfl, rfl⟩

/-- A text that lists a growing ring behind a member of another name. -/
def roundingText : String :=
  "\x7b\"x\":[\x7b\x7d], \"increasing_ring\":" ++
    "\x7b\"start_volume\":1.00000001,\"ramp_up_secs\":9\x7d\x7d"

/-- A volume that is above one as it is written is in the range if it is rounded to one. -/
theorem ofText?_rounds_into_range :
    ∃ settings, ofText? roundingText = .ok settings ∧
      settings.get .crescendo = some ⟨.one, 9⟩ ∧ settings.get .vibrateWhenRinging = true := by
  let volume : Numeral := ⟨false, [1], some [0, 0, 0, 0, 0, 0, 0, 1], none⟩
  let seconds : Numeral := ⟨false, [9], none, none⟩
  let ring := [("start_volume", Json.number volume), ("ramp_up_secs", Json.number seconds)]
  let members := [("x", Json.array [.object []]), ("increasing_ring", objectOf ring)]
  let listing : Listing := fun
    | .crescendo => some (some ⟨.one, 9⟩)
    | _ => none
  have hvolume : Writes (.value (.number volume)) _ :=
    .number (.mk ⟨by decide, by decide, rfl⟩ (by decide) (.some ⟨by decide, by decide, rfl⟩) .none)
  have hseconds : Writes (.value (.number seconds)) _ :=
    .number (.mk ⟨by decide, by decide, rfl⟩ (by decide) .none .none)
  have hring : Writes (.value (objectOf ring)) _ :=
    .object (.members isGap_nil (writesString_plain (by decide)) isGap_nil isGap_nil
      hvolume isGap_nil (.member isGap_nil (writesString_plain (by decide)) isGap_nil
        isGap_nil hseconds isGap_nil))
  have hother : Writes (.value (.array [.object []])) _ :=
    .array (.item isGap_nil (.emptyObject isGap_nil) isGap_nil)
  have hblank : IsGap [' '] := by simp [IsGap]
  have hobject : Writes (.value (objectOf members)) _ :=
    .object (.members isGap_nil (writesString_plain (by decide)) isGap_nil isGap_nil
      hother isGap_nil (.member hblank (writesString_plain (by decide)) isGap_nil
        isGap_nil hring isGap_nil))
  have hwritten : WritesText (objectOf members) roundingText :=
    ⟨[], _, [], isGap_nil, hobject, isGap_nil, by decide +kernel⟩
  have hlists : Lists members listing := by
    constructor
    · intro field hmissing
      cases field with
      | crescendo => cases hmissing
      | _ => rfl
    · intro field value hlisted
      cases field with
      | crescendo =>
        cases hlisted
        exact ⟨objectOf ring, rfl, .some (.members rfl rfl ⟨volume, rfl, by decide +kernel⟩
          ⟨[9], rfl, rfl, by decide⟩)⟩
      | _ => cases hlisted
  obtain ⟨settings, hread, hget⟩ := (ofText?_of_lists hwritten hlists).1 fun ring hring => by
    cases hring
    exact ⟨(Number.Single.inUnit_iff _).mp (by decide), by decide⟩
  exact ⟨settings, hread, hget .crescendo, hget .vibrateWhenRinging⟩

end Settings

end PhoneAudio
