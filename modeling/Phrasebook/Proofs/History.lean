import Phrasebook.Proofs.Memory
import Phrasebook.Speaker

/-! Speakers over time: what is said depends on what was asked before only through the locales that
were chosen and the phrases that were loaded, never through what is remembered. -/
namespace Phrasebook

/-- What a speaker is built with. It has no phrases yet and remembers no messages. -/
structure Setup where
  locale : String := "en"
  fallback : String := "en"
  settings : CurrencySettings := {}
  caches : FormatCaches := {}
deriving DecidableEq, Repr

def Setup.speaker (u : Setup) : Speaker :=
  { locale := u.locale, fallback := u.fallback
    renderer := { settings := u.settings, caches := u.caches } }

inductive Request where
  | speakIn (locale : String)
  | fallBackOn (locale : String)
  | load (locale : String) (phrases : Phrases)
  | say (key : String) (values : Option Values)
  | forgetMessages
  | forgetLocales

abbrev Answer := Except PhraseError (Option String)

/-- What a speaker does on request. Only a request to say something is answered. -/
def Speaker.serve (s : Speaker) : Request → Option Answer × Speaker
  | .speakIn locale => (none, s.speakIn locale)
  | .fallBackOn locale => (none, s.fallBackOn locale)
  | .load locale phrases => (none, s.load locale phrases)
  | .say key values => (some (s.say key values).1, (s.say key values).2)
  | .forgetMessages => (none, s.forgetMessages)
  | .forgetLocales => (none, s.forgetLocales)

/-- The answers to requests one after the other. -/
def Speaker.answers (s : Speaker) : List Request → List Answer
  | [] => []
  | q :: qs => (s.serve q).1.toList ++ (s.serve q).2.answers qs

namespace Speaker
variable {s : Speaker} {key template : String} {values : Option Values}

theorem say_of_template (h : s.template? key = some template) :
    s.say key values =
      ((s.renderer.fill key template values [s.locale, s.fallback]).1.map some,
        { s with renderer := (s.renderer.fill key template values [s.locale, s.fallback]).2 }) := by
  obtain ⟨phrases, hbook, hphrase⟩ := Option.bind_eq_some_iff.mp h
  simp only [say, hbook, hphrase]

theorem say_snd_of_no_template (h : s.template? key = none) : (s.say key values).2 = s := by
  simp only [say]
  cases hbook : s.books.get? s.locale with
  | none => rfl
  | some phrases =>
    rw [template?, hbook, Option.bind_some] at h
    simp only [h]

/-- What is remembered for a key belongs to the template that the key has in the active locale. -/
def Agrees (s : Speaker) : Prop :=
  ∀ key template, s.template? key = some template → s.renderer.AgreesOn key template

theorem agrees_of_forgotten (h : s.renderer.messages = ∅) : s.Agrees :=
  fun _ _ _ => Renderer.agreesOn_of_forgotten h

theorem agrees_load_active (s : Speaker) (phrases : Phrases) : (s.load s.locale phrases).Agrees := by
  simp only [load, if_pos]
  exact agrees_of_forgotten rfl

theorem Agrees.speakIn (h : s.Agrees) (locale : String) : (s.speakIn locale).Agrees := by
  simp only [Speaker.speakIn]
  split
  · exact h
  · exact agrees_of_forgotten rfl

theorem Agrees.load (h : s.Agrees) (locale : String) (phrases : Phrases) :
    (s.load locale phrases).Agrees := by
  simp only [Speaker.load]
  split
  · exact agrees_of_forgotten rfl
  · rename_i hne
    -- Another locale's phrases are new: the active one still has its templates.
    intro key template ht
    apply h key template
    simp only [template?] at ht ⊢
    rwa [Dictionary.get?_insert, if_neg (Ne.symm hne)] at ht

theorem Agrees.say (h : s.Agrees) (key : String) (values : Option Values) :
    (s.say key values).2.Agrees := by
  cases ht : s.template? key with
  | none =>
    rw [say_snd_of_no_template ht]
    exact h
  | some template =>
    rw [say_of_template ht]
    intro key' template' ht'
    apply (h key' template' ht').fill
    rintro rfl
    exact Option.some.inj (ht'.symm.trans ht)

/-- One case for each request. -/
theorem Agrees.serve (h : s.Agrees) (q : Request) : (s.serve q).2.Agrees := by
  cases q with
  | speakIn locale => exact h.speakIn locale
  | fallBackOn locale => exact h
  | load locale phrases => exact h.load locale phrases
  | say key values => exact h.say key values
  | forgetMessages => exact agrees_of_forgotten rfl
  | forgetLocales => exact h

end Speaker

namespace Request

/-- The locale that a request makes active. -/
def active? : Request → Option String
  | speakIn locale => some locale
  | _ => none

/-- The locale that a request makes the fallback. -/
def fallback? : Request → Option String
  | fallBackOn locale => some locale
  | _ => none

/-- The phrases that a request loads for a locale. -/
def phrases? (locale : String) : Request → Option Phrases
  | load l phrases => if l = locale then some phrases else none
  | _ => none

end Request

namespace Setup

/-! What the requests so far, the latest one first, mean for the next one. -/

def active (u : Setup) (past : List Request) : String :=
  (past.findSome? Request.active?).getD u.locale

def currentFallback (u : Setup) (past : List Request) : String :=
  (past.findSome? Request.fallback?).getD u.fallback

/-- The answer without any memory: the template is the one that was loaded last, it is read for this
one use, and the data of locales comes from the tables. -/
def directAnswer (u : Setup) (past : List Request) (key : String) (values : Option Values) :
    Answer :=
  match past.findSome? (Request.phrases? (u.active past)) with
  | none => .error (.notLoaded (u.active past))
  | some phrases =>
    match phrases.get? key with
    | none => .ok none
    | some template =>
      (fillTemplate (m := Id) .direct u.settings template values
        [u.active past, u.currentFallback past]).map some

def directReply (u : Setup) (past : List Request) : Request → Option Answer
  | .say key values => some (u.directAnswer past key values)
  | _ => none

/-- The direct answers to requests one after the other. -/
def directAnswers (u : Setup) (past : List Request) : List Request → List Answer
  | [] => []
  | q :: qs => (u.directReply past q).toList ++ u.directAnswers (q :: past) qs

/-- A speaker is where the requests so far have brought it, and what it remembers for a key belongs
to the template that the key has now in the active locale. -/
structure Tracks (u : Setup) (past : List Request) (s : Speaker) : Prop where
  locale : s.locale = u.active past
  fallback : s.fallback = u.currentFallback past
  settings : s.renderer.settings = u.settings
  books : ∀ l, s.books.get? l = past.findSome? (Request.phrases? l)
  agrees : ∀ key template, s.template? key = some template → s.renderer.AgreesOn key template

variable {u : Setup} {past : List Request} {s : Speaker} {key : String} {values : Option Values}

theorem tracks_speaker : u.Tracks [] u.speaker where
  locale := rfl
  fallback := rfl
  settings := rfl
  books _ := rfl
  agrees _ _ _ := Renderer.agreesOn_of_forgotten rfl

theorem Tracks.speakIn (h : u.Tracks past s) (locale : String) :
    u.Tracks (.speakIn locale :: past) (s.speakIn locale) := by
  have hagrees : (s.speakIn locale).Agrees := Speaker.Agrees.speakIn h.agrees locale
  simp only [Speaker.speakIn] at hagrees ⊢
  split
  · rename_i he
    exact ⟨he.symm, h.fallback, h.settings, h.books, h.agrees⟩
  · rename_i hne
    rw [if_neg hne] at hagrees
    exact ⟨rfl, h.fallback, h.settings, h.books, hagrees⟩

theorem Tracks.fallBackOn (h : u.Tracks past s) (locale : String) :
    u.Tracks (.fallBackOn locale :: past) (s.fallBackOn locale) :=
  ⟨h.locale, rfl, h.settings, h.books, h.agrees⟩

theorem Tracks.load (h : u.Tracks past s) (locale : String) (phrases : Phrases) :
    u.Tracks (.load locale phrases :: past) (s.load locale phrases) := by
  have hagrees : (s.load locale phrases).Agrees := Speaker.Agrees.load h.agrees locale phrases
  have hbooks : ∀ l, (s.books.insert locale phrases).get? l =
      (Request.load locale phrases :: past).findSome? (Request.phrases? l) := by
    intro l
    rw [Dictionary.get?_insert, List.findSome?_cons, h.books l]
    simp only [Request.phrases?]
    by_cases he : l = locale
    · rw [if_pos he, if_pos he.symm]
    · rw [if_neg he, if_neg (Ne.symm he)]
  simp only [Speaker.load] at hagrees ⊢
  by_cases he : locale = s.locale
  · rw [if_pos he] at hagrees ⊢
    exact ⟨h.locale, h.fallback, h.settings, hbooks, hagrees⟩
  · rw [if_neg he] at hagrees ⊢
    exact ⟨h.locale, h.fallback, h.settings, hbooks, hagrees⟩

theorem Tracks.forgetMessages (h : u.Tracks past s) :
    u.Tracks (.forgetMessages :: past) s.forgetMessages :=
  ⟨h.locale, h.fallback, h.settings, h.books, Speaker.agrees_of_forgotten rfl⟩

theorem Tracks.forgetLocales (h : u.Tracks past s) :
    u.Tracks (.forgetLocales :: past) s.forgetLocales :=
  ⟨h.locale, h.fallback, h.settings, h.books, h.agrees⟩

theorem Tracks.say (h : u.Tracks past s) (key : String) (values : Option Values) :
    u.Tracks (.say key values :: past) (s.say key values).2 := by
  have hagrees : (s.say key values).2.Agrees := Speaker.Agrees.say h.agrees key values
  cases ht : s.template? key with
  | none =>
    rw [Speaker.say_snd_of_no_template ht]
    exact ⟨h.locale, h.fallback, h.settings, h.books, h.agrees⟩
  | some template =>
    rw [Speaker.say_of_template ht] at hagrees ⊢
    exact ⟨h.locale, h.fallback, Renderer.fill_snd.2.1.trans h.settings, h.books, hagrees⟩

/-- One case for each request. -/
theorem Tracks.serve (h : u.Tracks past s) (q : Request) : u.Tracks (q :: past) (s.serve q).2 := by
  cases q with
  | speakIn locale => exact h.speakIn locale
  | fallBackOn locale => exact h.fallBackOn locale
  | load locale phrases => exact h.load locale phrases
  | say key values => exact h.say key values
  | forgetMessages => exact h.forgetMessages
  | forgetLocales => exact h.forgetLocales

theorem Tracks.say_fst (h : u.Tracks past s) :
    (s.say key values).1 = u.directAnswer past key values := by
  simp only [directAnswer, ← h.locale, ← h.books, ← h.fallback, ← h.settings]
  cases hbook : s.books.get? s.locale with
  | none => simp only [Speaker.say, hbook]
  | some phrases =>
    cases hphrase : phrases.get? key with
    | none => simp only [Speaker.say, hbook, hphrase]
    | some template =>
      have ht : s.template? key = some template := by
        rw [Speaker.template?, hbook, Option.bind_some, hphrase]
      simp only [Speaker.say_of_template ht, Renderer.fill_fst (h.agrees key template ht), hphrase]

theorem Tracks.serve_fst (h : u.Tracks past s) (q : Request) :
    (s.serve q).1 = u.directReply past q := by
  cases q with
  | say key values => exact congrArg some h.say_fst
  | speakIn | fallBackOn | load | forgetMessages | forgetLocales => rfl

theorem Tracks.answers (h : u.Tracks past s) (qs : List Request) :
    s.answers qs = u.directAnswers past qs := by
  induction qs generalizing past s with
  | nil => rfl
  | cons q qs ih => rw [Speaker.answers, directAnswers, h.serve_fst, ih (h.serve q)]

/-- Whatever is asked in whatever order, every answer is the direct one: memory never shows. -/
theorem answers_eq_directAnswers (u : Setup) (qs : List Request) :
    u.speaker.answers qs = u.directAnswers [] qs :=
  tracks_speaker.answers qs

end Setup
end Phrasebook
