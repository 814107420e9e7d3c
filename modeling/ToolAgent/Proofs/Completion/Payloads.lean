import ToolAgent.Completion.Accumulator

/-!
# Taking payloads

What the payloads of a stream do to an accumulator, one after the other: the payloads of a stream
may be taken in two parts (`takeAll_append`), and an accumulator is done exactly when one of the
payloads it took is the `[DONE]` marker (`isDone_iff_of_takeAll`). A payload either brings about a
failure (`Payload.Fails`) or is harmless, and payloads can be taken exactly if all of them are
harmless (`exists_takeAll_iff`).
-/

namespace ToolAgent

namespace Payload

variable {text : String}

/-- The text says that the stream has ended well. -/
def IsDone (text : String) : Prop := Text.trim text = doneMarker

instance : DecidablePred IsDone := fun text =>
  inferInstanceAs (Decidable (Text.trim text = doneMarker))

/-- The text holds nothing, as in an event that only keeps the connection open. -/
def IsBlank (text : String) : Prop := Text.trim text = ""

/-- The text is a JSON value that reports no error. -/
def IsChunk (text : String) (chunk : Json) : Prop :=
  Json.parse (Text.trim text) = .ok chunk ∧ chunk.get? "error" = none

/-- The text is a JSON value that reports the error. -/
def IsReport (text : String) (error : Json) : Prop :=
  ∃ value, Json.parse (Text.trim text) = .ok value ∧ value.get? "error" = some error

theorem ofText_of_isDone (h : IsDone text) : ofText text = .done := by
  rw [IsDone] at h
  simp [ofText, h, doneMarker]

theorem ofText_of_isBlank (h : IsBlank text) : ofText text = .blank := by
  rw [IsBlank] at h
  simp [ofText, h]

/-- A JSON text is neither blank nor a marker. -/
theorem ofText_of_parse {value : Json} (h : Json.parse (Text.trim text) = .ok value) :
    ofText text = match value.get? "error" with
      | some error => .reported error
      | none => .chunk value := by
  have hne {other : String} (hother : (Json.parse other).toOption = none) :
      Text.trim text ≠ other := by
    rintro rfl
    rw [h] at hother
    simp [Except.toOption] at hother
  have hblank : Text.trim text ≠ "" := hne (by decide +kernel)
  have hdone : Text.trim text ≠ doneMarker := hne (by decide +kernel)
  have hfailed : Text.trim text ≠ errorMarker := hne (by decide +kernel)
  cases herror : value.get? "error" <;>
    simp only [ofText, hblank, hdone, hfailed, h, herror, if_false]

theorem ofText_of_isChunk {chunk : Json} (h : IsChunk text chunk) : ofText text = .chunk chunk := by
  rw [ofText_of_parse h.1, h.2]

theorem ofText_of_isReport {error : Json} (h : IsReport text error) :
    ofText text = .reported error := by
  obtain ⟨value, hparse, herror⟩ := h
  rw [ofText_of_parse hparse, herror]

theorem ofText_ne_done (h : ¬ IsDone text) : ofText text ≠ .done := by
  rw [IsDone] at h
  simp only [ofText, h, if_false]
  split
  · simp
  · split
    · simp
    · split
      · simp
      · split <;> simp

/-- The text says that the stream has ended in an error. -/
def IsFailed (text : String) : Prop := Text.trim text = errorMarker

instance : DecidablePred IsFailed := fun text =>
  inferInstanceAs (Decidable (Text.trim text = errorMarker))

theorem ofText_of_isFailed (h : IsFailed text) : ofText text = .failed := by
  rw [IsFailed] at h
  simp [ofText, h, doneMarker, errorMarker]

/-- The text is something, but neither a marker nor JSON. -/
structure IsUnreadable (text : String) (error : Json.ParseError) : Prop where
  not_isBlank : ¬ IsBlank text
  not_isDone : ¬ IsDone text
  not_isFailed : ¬ IsFailed text
  parse : Json.parse (Text.trim text) = .error error

theorem ofText_of_isUnreadable {error : Json.ParseError} (h : IsUnreadable text error) :
    ofText text = .unreadable error (Text.trim text) := by
  obtain ⟨hblank, hdone, hfailed, hparse⟩ := h
  rw [IsBlank] at hblank
  rw [IsDone] at hdone
  rw [IsFailed] at hfailed
  simp only [ofText, hblank, hdone, hfailed, hparse, if_false]

/-- The text brings about the failure. -/
inductive Fails (text : String) : GatewayFailure → Prop where
  | failed (h : IsFailed text) : Fails text .streamFailed
  | reported {error : Json} (h : IsReport text error) : Fails text (.streamError error)
  | unreadable {error : Json.ParseError} (h : IsUnreadable text error) :
      Fails text (.unreadableChunk error (Text.trim text))

/-- The text holds nothing, the marker of a good end, or JSON that reports no error. Nothing else is
asked of the JSON. -/
inductive IsHarmless (text : String) : Prop where
  | blank (h : IsBlank text)
  | done (h : IsDone text)
  | chunk {chunk : Json} (h : IsChunk text chunk)

theorem failure?_of_isHarmless (h : IsHarmless text) : (ofText text).failure? = none := by
  cases h with
  | blank h =>
    rw [ofText_of_isBlank h]
    rfl
  | done h =>
    rw [ofText_of_isDone h]
    rfl
  | chunk h =>
    rw [ofText_of_isChunk h]
    rfl

theorem Fails.failure?_eq {failure : GatewayFailure} (h : Fails text failure) :
    (ofText text).failure? = some failure := by
  cases h with
  | failed h => rw [ofText_of_isFailed h, failure?]
  | reported h => rw [ofText_of_isReport h, failure?]
  | unreadable h => rw [ofText_of_isUnreadable h, failure?]

/-- There is no third kind of payload. -/
theorem isHarmless_or_fails (text : String) : IsHarmless text ∨ ∃ failure, Fails text failure := by
  by_cases hblank : IsBlank text
  · exact .inl (.blank hblank)
  by_cases hdone : IsDone text
  · exact .inl (.done hdone)
  by_cases hfailed : IsFailed text
  · exact .inr ⟨_, .failed hfailed⟩
  cases hparse : Json.parse (Text.trim text) with
  | error e => exact .inr ⟨_, .unreadable ⟨hblank, hdone, hfailed, hparse⟩⟩
  | ok value =>
    cases herror : value.get? "error" with
    | some error => exact .inr ⟨_, .reported ⟨value, hparse, herror⟩⟩
    | none => exact .inl (.chunk ⟨hparse, herror⟩)

theorem isHarmless_iff : IsHarmless text ↔ (ofText text).failure? = none := by
  constructor
  · exact failure?_of_isHarmless
  · intro hnone
    obtain h | ⟨failure, hfails⟩ := isHarmless_or_fails text
    · exact h
    · rw [hfails.failure?_eq] at hnone
      simp at hnone

instance : DecidablePred IsHarmless := fun _ => decidable_of_iff _ isHarmless_iff.symm

theorem not_isHarmless_iff : ¬ IsHarmless text ↔ ∃ failure, Fails text failure := by
  constructor
  · exact (isHarmless_or_fails text).resolve_left
  · rintro ⟨failure, hfails⟩ h
    rw [isHarmless_iff, hfails.failure?_eq] at h
    simp at h

end Payload

namespace Accumulator

open Payload (IsDone IsHarmless)

variable {acc acc' : Accumulator}

theorem takeAll_cons (acc : Accumulator) (text : String) (texts : List String) :
    acc.takeAll (text :: texts) =
      match (Payload.ofText text).failure? with
      | some failure => .error failure
      | none => (acc.take (.ofText text)).takeAll texts := rfl

/-- Payloads may be taken in two parts. -/
theorem takeAll_append (acc : Accumulator) (texts more : List String) :
    acc.takeAll (texts ++ more) = (acc.takeAll texts).bind (·.takeAll more) := by
  induction texts generalizing acc with
  | nil => rfl
  | cons text texts ih =>
    rw [List.cons_append, takeAll_cons, takeAll_cons]
    split
    · rfl
    · exact ih _

/-- Payloads can be taken exactly if they are harmless. -/
theorem exists_takeAll_iff {texts : List String} :
    (∃ acc', acc.takeAll texts = .ok acc') ↔ ∀ text ∈ texts, IsHarmless text := by
  induction texts generalizing acc with
  | nil => simp [takeAll]
  | cons text texts ih =>
    rw [List.forall_mem_cons, takeAll_cons, Payload.isHarmless_iff]
    cases hfailure : (Payload.ofText text).failure? with
    | none => simp [ih]
    | some failure => simp

/-- What follows a payload that brings about a failure is of no account. -/
theorem takeAll_eq_error {before after : List String} {text : String} {failure : GatewayFailure}
    (hbefore : acc.takeAll before = .ok acc')
    (hfailure : (Payload.ofText text).failure? = some failure) :
    acc.takeAll (before ++ text :: after) = .error failure := by
  rw [takeAll_append, hbefore]
  simp only [Except.bind, takeAll_cons, hfailure]

@[simp] theorem isDone_addChoice (acc : Accumulator) (choice : Json) :
    (acc.addChoice choice).isDone = acc.isDone := rfl

@[simp] theorem isDone_addChunk (acc : Accumulator) (chunk : Json) :
    (acc.addChunk chunk).isDone = acc.isDone := by
  unfold addChunk
  split <;> rfl

/-- A payload that is no failure makes an accumulator done exactly when it is the marker. -/
theorem isDone_take_iff {text : String} (h : (Payload.ofText text).failure? = none) :
    (acc.take (.ofText text)).isDone ↔ acc.isDone ∨ IsDone text := by
  by_cases hdone : IsDone text
  · simp [Payload.ofText_of_isDone hdone, take, hdone]
  · cases hp : Payload.ofText text with
    | done => exact absurd hp (Payload.ofText_ne_done hdone)
    | failed => simp [hp, Payload.failure?] at h
    | blank | unreadable | reported => simp [take, hdone]
    | chunk value => simp [take, hdone]

theorem isDone_iff_of_takeAll {texts : List String} (h : acc.takeAll texts = .ok acc') :
    acc'.isDone ↔ acc.isDone ∨ ∃ text ∈ texts, IsDone text := by
  induction texts generalizing acc with
  | nil =>
    obtain rfl : acc = acc' := by simpa [takeAll] using h
    simp
  | cons text texts ih =>
    rw [takeAll_cons] at h
    split at h
    · simp at h
    · rename_i hfailure
      rw [ih h, isDone_take_iff hfailure]
      simp [or_assoc]

/-- Payloads that are not the marker leave an accumulator not done. -/
theorem not_isDone_of_takeAll {texts : List String} (h : acc.takeAll texts = .ok acc')
    (hacc : ¬ acc.isDone) (htexts : ∀ text ∈ texts, ¬ IsDone text) : ¬ acc'.isDone := by
  rw [isDone_iff_of_takeAll h]
  rintro (hdone | ⟨text, hmem, hdone⟩)
  · exact hacc hdone
  · exact htexts text hmem hdone

end Accumulator

end ToolAgent
