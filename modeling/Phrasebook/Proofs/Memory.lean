import Phrasebook.Proofs.Effects
import Phrasebook.Renderer

/-! What is remembered for a key makes no difference, as long as it was made from the template that
the key still has. -/
namespace Phrasebook.Renderer

variable {r : Renderer} {key key' template template' : String} {values : Option Values}
  {locales : List String}

/-- If anything is remembered for the key, it is the message of this template. -/
def AgreesOn (r : Renderer) (key template : String) : Prop :=
  ∀ msg, r.messages.get? key = some msg → Message.ofText? template = .ok msg

theorem agreesOn_of_forgotten (h : r.messages = ∅) : r.AgreesOn key template := by
  intro msg hm
  rw [h] at hm
  cases hm

theorem message_fst (h : r.AgreesOn key template) :
    (r.message key template).1 = Message.ofText? template := by
  simp only [message]
  cases hk : r.messages.get? key with
  | some msg => exact (h msg hk).symm
  | none => cases Message.ofText? template <;> rfl

/-- Nothing new is remembered but the message of the given template. -/
theorem get?_message {msg : Option Message}
    (h : (r.message key template).2.messages.get? key' = some msg) :
    r.messages.get? key' = some msg ∨ key' = key ∧ Message.ofText? template = .ok msg := by
  simp only [message] at h
  cases hk : r.messages.get? key with
  | some t =>
    rw [hk] at h
    exact Or.inl h
  | none =>
    rw [hk] at h
    cases ht : Message.ofText? template with
    | error e =>
      rw [ht] at h
      exact Or.inl h
    | ok t =>
      rw [ht] at h
      simp only [Dictionary.get?_insert] at h
      split at h
      · exact Or.inr ⟨‹_›, by rw [Option.some.inj h]⟩
      · exact Or.inl h

theorem message_settings : (r.message key template).2.settings = r.settings := by
  simp only [message]
  cases r.messages.get? key with
  | some t => rfl
  | none => cases Message.ofText? template <;> rfl

/-- Filling changes what is remembered and counted as reading the message does, and no setting. -/
theorem fill_snd :
    (r.fill key template values locales).2.messages = (r.message key template).2.messages ∧
      (r.fill key template values locales).2.settings = r.settings ∧
        (r.fill key template values locales).2.counts = (r.message key template).2.counts := by
  have hs : (r.message key template).2.settings = r.settings := message_settings
  simp only [fill]
  generalize r.message key template = answer at hs ⊢
  obtain ⟨_ | _ | _, _⟩ := answer <;> cases values <;> exact ⟨rfl, hs, rfl⟩

/-- The text that is made of the message of a key with the tables alone. Without values, and for a
plain template, it is the template that is given. -/
def textOf (settings : CurrencySettings) (template : String) (values : Option Values)
    (locales : List String) : Except PlaceholderError (Option Message) → Except PhraseError String
  | .error e => .error (.placeholder e)
  | .ok msg? =>
    match msg?, values with
    | some msg, some values =>
      (msg.render (m := Id) .direct settings locales values).mapError .value
    | _, _ => .ok template

theorem fill_fst_eq_textOf :
    (r.fill key template values locales).1 =
      textOf r.settings template values locales (r.message key template).1 := by
  have hs : (r.message key template).2.settings = r.settings := message_settings
  simp only [fill, ← hs]
  generalize r.message key template = answer
  obtain ⟨_ | _ | msg, after⟩ := answer
  · rfl
  · rfl
  · cases values with
    | none => rfl
    | some values =>
      exact congrArg (Except.mapError PhraseError.value)
        (render_cached msg after.settings locales values after.caches)

theorem fillTemplate_eq_textOf {settings : CurrencySettings} :
    fillTemplate (m := Id) .direct settings template values locales =
      textOf settings template values locales (Message.ofText? template) := by
  simp only [fillTemplate]
  cases Message.ofText? template with
  | error e => rfl
  | ok msg? => cases msg? <;> cases values <;> rfl

/-- The text is what the tables give for the template, without any memory. -/
theorem fill_fst (h : r.AgreesOn key template) :
    (r.fill key template values locales).1 =
      fillTemplate (m := Id) .direct r.settings template values locales := by
  rw [fill_fst_eq_textOf, message_fst h, fillTemplate_eq_textOf]

/-- A key whose memory agrees with its template keeps to it, whichever key is filled, as long as
that is done with the template of that key. -/
theorem AgreesOn.fill (h : r.AgreesOn key' template') (he : key' = key → template' = template) :
    (r.fill key template values locales).2.AgreesOn key' template' := by
  intro msg hm
  rw [fill_snd.1] at hm
  rcases get?_message hm with hold | ⟨hkey, hnew⟩
  · exact h msg hold
  · rw [he hkey]
    exact hnew

end Phrasebook.Renderer
