import Phrasebook.Proofs.Entries
import Phrasebook.Proofs.Memory

/-! Renderers over time: a key has the message of the first template that could be read for it since
the messages were last forgotten, whatever templates are given for it later. -/
namespace Phrasebook

/-- What a renderer is called for. -/
inductive Call where
  | message (key template : String)
  | fill (key template : String) (values : Option Values) (locales : List String)
  | forgetMessages
  | forgetLocales

/-- What comes back from a call. -/
inductive Reply where
  | message (m : Except PlaceholderError (Option Message))
  | text (s : Except PhraseError String)
  | done

namespace Call

/-- The key that a call needs the message of, and the template that it gives for it. -/
def given? : Call → Option (String × String)
  | message key template => some (key, template)
  | fill key template _ _ => some (key, template)
  | forgetMessages => none
  | forgetLocales => none

def forgets : Call → Bool
  | forgetMessages => true
  | _ => false

/-- The template that a call gives for a key, if it can be read. -/
def readable? (key : String) (c : Call) : Option String :=
  match c.given? with
  | some (k, template) =>
    if k = key ∧ (Message.ofText? template).isOk then some template else none
  | none => none

end Call

namespace Renderer

def serve (r : Renderer) : Call → Reply × Renderer
  | .message key template =>
    (.message (r.message key template).1, (r.message key template).2)
  | .fill key template values locales =>
    (.text (r.fill key template values locales).1, (r.fill key template values locales).2)
  | .forgetMessages => (.done, r.forgetMessages)
  | .forgetLocales => (.done, r.forgetLocales)

/-- A new renderer after calls, of which the latest stands first. -/
def after (settings : CurrencySettings) (caches : FormatCaches) : List Call → Renderer
  | [] => { settings, caches }
  | c :: past => ((after settings caches past).serve c).2

/-! What the calls so far, the latest one first, mean for the next one. -/

/-- The first template that could be read for a key since the messages were last forgotten. -/
def first? (past : List Call) (key : String) : Option String :=
  (past.takeWhile fun c => !c.forgets).reverse.findSome? (Call.readable? key)

/-- What a call comes back with: the first template counts, and if there is none the given one. -/
def reply (settings : CurrencySettings) (past : List Call) : Call → Reply
  | .message key template => .message (Message.ofText? ((first? past key).getD template))
  | .fill key template values locales =>
    .text (textOf settings template values locales
      (Message.ofText? ((first? past key).getD template)))
  | .forgetMessages => .done
  | .forgetLocales => .done

/-- A call that needs a message is a hit if its key has a first template, and else a miss. -/
def count (past : List Call) (c : Call) (counts : MemoryCounts) : MemoryCounts :=
  match c.given? with
  | none => counts
  | some (key, _) =>
    match first? past key with
    | some _ => { counts with hits := counts.hits + 1 }
    | none => { counts with misses := counts.misses + 1 }

variable {settings : CurrencySettings} {caches : FormatCaches} {past : List Call} {c : Call}
  {r : Renderer} {key key' template first : String} {msg : Option Message}

theorem first?_cons_of_forgets (h : c.forgets = true) : first? (c :: past) key = none := by
  simp [first?, h]

theorem first?_cons (h : c.forgets = false) :
    first? (c :: past) key = (first? past key).or (c.readable? key) := by
  simp [first?, h, List.findSome?_append]

theorem first?_cons_of_given (h : c.given? = some (key, template)) :
    first? (c :: past) key' = (first? past key').or
      (if key = key' ∧ (Message.ofText? template).isOk then some template else none) := by
  have hf : c.forgets = false := by
    cases c with
    | forgetMessages => cases h
    | message | fill | forgetLocales => rfl
  rw [first?_cons hf, Call.readable?, h]

theorem message_of_some (h : r.messages.get? key = some msg) :
    r.message key template = (.ok msg, { r with counts.hits := r.counts.hits + 1 }) := by
  simp only [message, h]

theorem message_of_error {e : PlaceholderError} (h : r.messages.get? key = none)
    (he : Message.ofText? template = .error e) :
    r.message key template = (.error e, { r with counts.misses := r.counts.misses + 1 }) := by
  simp only [message, h, he]

theorem message_of_ok (h : r.messages.get? key = none) (hm : Message.ofText? template = .ok msg) :
    r.message key template = (.ok msg,
      { r with
        messages := r.messages.insert key msg, counts.misses := r.counts.misses + 1 }) := by
  simp only [message, h, hm]

/-- Filling a template does to the renderer what getting its message does, but for locale data. -/
theorem serve_snd_of_given (h : c.given? = some (key, template)) :
    (r.serve c).2.messages = (r.message key template).2.messages ∧
      (r.serve c).2.settings = r.settings ∧
        (r.serve c).2.counts = (r.message key template).2.counts := by
  cases c with
  | message =>
    cases h
    exact ⟨rfl, message_settings, rfl⟩
  | fill =>
    cases h
    exact fill_snd
  | forgetMessages | forgetLocales => cases h

/-- A renderer remembers for each key what was read of its first template. -/
structure Recalls (settings : CurrencySettings) (past : List Call) (r : Renderer) : Prop where
  settings : r.settings = settings
  messages : ∀ key, (r.messages.get? key).map .ok = (first? past key).map Message.ofText?
  total : r.counts.hits + r.counts.misses = (past.filterMap Call.given?).length

theorem recalls_new : Recalls settings [] { settings, caches } where
  settings := rfl
  messages _ := rfl
  total := rfl

theorem Recalls.get?_of_first (h : Recalls settings past r) (hf : first? past key = some first) :
    ∃ msg, r.messages.get? key = some msg ∧ Message.ofText? first = .ok msg := by
  have hk := h.messages key
  rw [hf] at hk
  obtain ⟨msg, hm, he⟩ := Option.map_eq_some_iff.mp hk
  exact ⟨msg, hm, he.symm⟩

theorem Recalls.get?_of_no_first (h : Recalls settings past r) (hf : first? past key = none) :
    r.messages.get? key = none := by
  have hk := h.messages key
  rw [hf] at hk
  exact Option.map_eq_none_iff.mp hk

theorem Recalls.message_fst (h : Recalls settings past r) :
    (r.message key template).1 = Message.ofText? ((first? past key).getD template) := by
  cases hf : first? past key with
  | some first =>
    obtain ⟨msg, hk, hm⟩ := h.get?_of_first hf
    rw [message_of_some hk, Option.getD_some, hm]
  | none =>
    have hk := h.get?_of_no_first hf
    rw [Option.getD_none]
    cases hm : Message.ofText? template with
    | error e => rw [message_of_error hk hm]
    | ok msg => rw [message_of_ok hk hm]

/-- Only a readable template for a key without one is remembered. -/
theorem Recalls.message_snd (h : Recalls settings past r)
    (hknown : (first? past key).isSome ∨ (Message.ofText? template).isOk = false) :
    (r.message key template).2.messages = r.messages := by
  cases hf : first? past key with
  | some first =>
    obtain ⟨msg, hk, -⟩ := h.get?_of_first hf
    rw [message_of_some hk]
  | none =>
    have hk := h.get?_of_no_first hf
    cases hm : Message.ofText? template with
    | error e => rw [message_of_error hk hm]
    | ok msg => simp [hf, hm, Except.isOk, Except.toBool] at hknown

theorem Recalls.serve_counts (h : Recalls settings past r) (c : Call) :
    (r.serve c).2.counts = count past c r.counts := by
  cases hc : c.given? with
  | none =>
    cases c with
    | message | fill => cases hc
    | forgetMessages | forgetLocales => rfl
  | some given =>
    obtain ⟨key, template⟩ := given
    rw [(serve_snd_of_given hc).2.2]
    simp only [count, hc]
    cases hf : first? past key with
    | some first =>
      obtain ⟨msg, hk, -⟩ := h.get?_of_first hf
      rw [message_of_some hk]
    | none =>
      have hk := h.get?_of_no_first hf
      cases hm : Message.ofText? template with
      | error e => rw [message_of_error hk hm]
      | ok msg => rw [message_of_ok hk hm]

theorem get?_message_of_ne (hne : key' ≠ key) :
    (r.message key template).2.messages.get? key' = r.messages.get? key' := by
  cases hk : r.messages.get? key with
  | some msg => rw [message_of_some hk]
  | none =>
    cases hm : Message.ofText? template with
    | error e => rw [message_of_error hk hm]
    | ok msg => rw [message_of_ok hk hm, Dictionary.get?_insert, if_neg hne]

theorem Recalls.get?_message (h : Recalls settings past r) (hc : c.given? = some (key, template))
    (key' : String) : ((r.message key template).2.messages.get? key').map .ok =
      (first? (c :: past) key').map Message.ofText? := by
  rw [first?_cons_of_given hc]
  by_cases hne : key' = key
  · subst hne
    cases hf : first? past key' with
    | some first =>
      rw [h.message_snd (Or.inl (by rw [hf, Option.isSome_some])), h.messages, hf, Option.some_or]
    | none =>
      have hk := h.get?_of_no_first hf
      cases hm : Message.ofText? template with
      | error e => simp [message_of_error hk hm, hk, Except.isOk, Except.toBool]
      | ok msg =>
        simp [message_of_ok hk hm, Dictionary.get?_insert, hm, Except.isOk, Except.toBool]
  · rw [get?_message_of_ne hne, h.messages, if_neg (fun he => hne he.1.symm), Option.or_none]

/-- One case for each call. -/
theorem Recalls.serve (h : Recalls settings past r) (c : Call) :
    Recalls settings (c :: past) (r.serve c).2 := by
  have htotal : (r.serve c).2.counts.hits + (r.serve c).2.counts.misses =
      ((c :: past).filterMap Call.given?).length := by
    rw [h.serve_counts c, count]
    cases hc : c.given? with
    | none => simpa [hc] using h.total
    | some given =>
      cases hf : first? past given.1 <;> simp [hf, hc, ← h.total] <;> omega
  cases hc : c.given? with
  | some given =>
    obtain ⟨key, template⟩ := given
    obtain ⟨hmessages, hsettings, -⟩ := serve_snd_of_given (r := r) hc
    refine ⟨hsettings.trans h.settings, ?_, htotal⟩
    intro key'
    rw [hmessages, h.get?_message hc]
  | none =>
    cases c with
    | message | fill => cases hc
    | forgetMessages =>
      refine ⟨h.settings, ?_, htotal⟩
      intro key
      rw [first?_cons_of_forgets rfl]
      rfl
    | forgetLocales =>
      refine ⟨h.settings, ?_, htotal⟩
      intro key
      have hnone : Call.forgetLocales.readable? key = none := rfl
      rw [first?_cons rfl, hnone, Option.or_none]
      exact h.messages key

theorem recalls_after (settings : CurrencySettings) (caches : FormatCaches) (past : List Call) :
    Recalls settings past (after settings caches past) := by
  induction past with
  | nil => exact recalls_new
  | cons c past ih => exact ih.serve c

theorem Recalls.serve_fst (h : Recalls settings past r) (c : Call) :
    (r.serve c).1 = reply settings past c := by
  cases c with
  | message key template => exact congrArg Reply.message h.message_fst
  | fill key template values locales =>
    simp only [Renderer.serve, reply, fill_fst_eq_textOf, h.settings, h.message_fst]
  | forgetMessages | forgetLocales => rfl

/-- There are as many messages as keys with a first template. -/
theorem Recalls.encard_first (h : Recalls settings past r) :
    {key | (first? past key).isSome}.encard = r.messages.size := by
  rw [← r.messages.encard_keys]
  congr 1
  ext key
  have hk := congrArg Option.isSome (h.messages key)
  simp only [Option.isSome_map] at hk
  simp only [Set.mem_ofPred_eq, hk]

/-- Whatever a new renderer was called for, the next call is answered from the first template of its
key, it counts as a hit or as a miss, and it leaves what is remembered as it is if it is a hit or its
template cannot be read. What is remembered are the messages of the first templates, and the counts
add up to the calls for messages. -/
theorem serve_after_eq_reply (settings : CurrencySettings) (caches : FormatCaches)
    (past : List Call) (c : Call) :
    ((after settings caches past).serve c).1 = reply settings past c ∧
      (after settings caches (c :: past)).counts = count past c (after settings caches past).counts ∧
      (∀ key template, c.given? = some (key, template) →
        (first? past key).isSome ∨ (Message.ofText? template).isOk = false →
          (after settings caches (c :: past)).messages = (after settings caches past).messages) ∧
      (∀ key, ((after settings caches past).messages.get? key).map .ok =
        (first? past key).map Message.ofText?) ∧
      {key | (first? past key).isSome}.encard = (after settings caches past).messages.size ∧
      (after settings caches past).counts.hits + (after settings caches past).counts.misses =
        (past.filterMap Call.given?).length := by
  have h : Recalls settings past (after settings caches past) := recalls_after settings caches past
  refine ⟨h.serve_fst c, h.serve_counts c, ?_, h.messages, h.encard_first, h.total⟩
  intro key template hc hknown
  rw [after, (serve_snd_of_given hc).1, h.message_snd hknown]

end Renderer
end Phrasebook
