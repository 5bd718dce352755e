import BoxOffice.Engine
import BoxOffice.Http.Handler
import BoxOffice.Json.Printer
import BoxOffice.Proofs.Turn

/-!
# What a callback does

A callback is acknowledged whatever it brings. It is passed over if its form cannot be read, does
not bring the token that is asked for, or does not tell a notification, and then nothing is asked of
anything, so that nobody can tell from what follows why it was passed over. Any other callback
settles what it notifies of, and tells nothing about how that ended.
-/
namespace BoxOffice.Http

/-- Whether a callback is passed over. -/
inductive IsPassedOver (setup : Setup) : Option CallbackForm → Prop where
  /-- Its form cannot be read. -/
  | unreadable : IsPassedOver setup none
  /-- Its form does not bring the token that is asked for. -/
  | unauthorised {form : CallbackForm} {token : String} (asked : setup.callbackToken = some token)
      (other : form.token ≠ some token) : IsPassedOver setup (some form)
  /-- Its form does not tell a notification. -/
  | undecoded {form : CallbackForm} {flaw : Json.Flaw}
      (found : Json.readWhole PaymentNotification.shape.decode form.data = .error flaw) :
      IsPassedOver setup (some form)

/-- Whether a callback may act for a notification: it brings the token, if one is asked for, and
tells the notification. -/
structure ActsFor (setup : Setup) (form : CallbackForm) (notification : PaymentNotification) :
    Prop where
  /-- It brings the token. -/
  authorised : ∀ token, setup.callbackToken = some token → form.token = some token
  /-- It tells the notification. -/
  told : Json.readWhole PaymentNotification.shape.decode form.data = .ok notification

section

variable {setup : Setup}

/-- A form acts for the notification that is found in it. -/
theorem notificationOf?_eq_some {form : CallbackForm} {notification : PaymentNotification} :
    notificationOf? setup form = some notification ↔ ActsFor setup form notification := by
  have asked : (setup.callbackToken.all fun token => form.token = some token) = true ↔
      ∀ token, setup.callbackToken = some token → form.token = some token := by
    simp only [Option.all_eq_true, decide_eq_true_eq]
  have told : (Json.readWhole PaymentNotification.shape.decode form.data).toOption =
        some notification ↔
      Json.readWhole PaymentNotification.shape.decode form.data = .ok notification := by
    cases Json.readWhole PaymentNotification.shape.decode form.data <;> simp [Except.toOption]
  rw [notificationOf?]
  split
  case isTrue brought =>
    exact told.trans ⟨fun told => ⟨asked.mp brought, told⟩, fun acts => acts.told⟩
  case isFalse missing =>
    exact ⟨(absurd · (Option.some_ne_none _).symm),
      fun acts => absurd (asked.mpr acts.authorised) missing⟩

/-- A callback is passed over if it acts for no notification. -/
theorem isPassedOver_iff {form : Option CallbackForm} :
    IsPassedOver setup form ↔ form >>= notificationOf? setup = none := by
  constructor
  · intro passed
    refine Option.eq_none_iff_forall_ne_some.mpr fun notification found => ?_
    obtain ⟨given, rfl, found⟩ := Option.bind_eq_some_iff.mp found
    have acts := notificationOf?_eq_some.mp found
    cases passed with
    | unauthorised asked other => exact other (acts.authorised _ asked)
    | undecoded flawed => cases acts.told.symm.trans flawed
  · intro missing
    cases form with
    | none => exact .unreadable
    | some form =>
      cases told : Json.readWhole PaymentNotification.shape.decode form.data with
      | error flaw => exact .undecoded told
      | ok notification =>
        by_cases authorised : ∀ token, setup.callbackToken = some token → form.token = some token
        · cases missing.symm.trans (notificationOf?_eq_some.mpr ⟨authorised, told⟩)
        · obtain ⟨token, refused⟩ := Classical.not_forall.mp authorised
          obtain ⟨asked, other⟩ := Classical.not_imp.mp refused
          exact .unauthorised asked other

end

variable {σ γ : Type} [Ledger σ] [Gateway γ]

/-- A callback is acknowledged, and does what settling its notification does, if it acts for one.
-/
theorem run_takeNotification (setup : Setup) (engine : Engine σ γ) (form : Option CallbackForm) :
    engine.run (takeNotification setup form) = (.ok acknowledged,
      match form >>= notificationOf? setup with
      | none => engine
      | some notification => (engine.run (Settlement.settle notification)).2) := by
  rw [takeNotification]
  cases form >>= notificationOf? setup with
  | none => rfl
  | some notification => simp only [Engine.run, Dialogue.run_bind, Dialogue.run_pure]

/-- Some callbacks, one after the other, leave behind what settling the notifications leaves behind
that they act for. -/
theorem after_callbacks (setup : Setup) (engine : Engine σ γ)
    (forms : List (Option CallbackForm)) :
    forms.foldl (fun engine form => (engine.run (takeNotification setup form)).2) engine =
      (forms.filterMap fun form => form >>= notificationOf? setup).foldl
        (fun engine notification => (engine.run (Settlement.settle notification)).2) engine := by
  induction forms generalizing engine with
  | nil => rfl
  | cons form forms ih =>
    rw [List.foldl_cons, run_takeNotification, List.filterMap_cons]
    cases form >>= notificationOf? setup with
    | none => exact ih engine
    | some notification => exact ih _

omit [Ledger σ] [Gateway γ] in
/-- A request that is posted where requests are to be posted is answered at its route. -/
theorem answer_of_posted (setup : Setup) {request : HttpRequest} {route : Route}
    (place : Route.ofPath? request.path = some route) (asked : route.isPosted = true)
    (posted : request.method = "POST") : answer setup request = answerAt setup request route := by
  have taken : route.takes request.method = true := by
    rw [Route.takes, if_pos asked, posted]
    rfl
  have complete : request.method ≠ "HEAD" := by
    rw [posted]
    decide
  simp only [answer, place, taken, complete, Bool.not_true, Bool.false_eq_true, ↓reduceIte,
    bind_pure]

/-- A request at the callback is answered as its form is. -/
theorem answer_callback (setup : Setup) (engine : Engine σ γ) {request : HttpRequest}
    (place : Route.ofPath? request.path = some .callback) (posted : request.method = "POST") :
    engine.run (answer setup request) =
      engine.run (takeNotification setup (callbackForm? request)) := by
  rw [answer_of_posted setup place rfl posted]
  rfl

/-- A callback is always acknowledged and acts only when it is authorised. Whatever the state of the
engine and whatever the callback brings, the answer has status 200 and one and the same body. A
callback that is passed over leaves the engine as it was, so no two of them can be told apart. Any
other callback acts for a notification, and leaves behind what settling it leaves behind, however
that ended. And these are the answers to requests at the callback. -/
theorem callback_acknowledged (setup : Setup) (engine : Engine σ γ) (form : Option CallbackForm) :
    (engine.run (takeNotification setup form)).1 = .ok acknowledged ∧
      acknowledged.status = 200 ∧
      (∃ value, acknowledged.body = .json value ∧
        value.write = "\x7b\"status\":\"ok\"\x7d") ∧
      (IsPassedOver setup form →
        engine.run (takeNotification setup form) = (.ok acknowledged, engine) ∧
        engine.perform (takeNotification setup form) = (.ok acknowledged, engine.rest)) ∧
      (∀ other, IsPassedOver setup form → IsPassedOver setup other →
        engine.run (takeNotification setup form) = engine.run (takeNotification setup other)) ∧
      (¬IsPassedOver setup form → ∃ given notification, form = some given ∧
        ActsFor setup given notification ∧
        (engine.run (takeNotification setup form)).2 =
          (engine.run (Settlement.settle notification)).2 ∧
        (engine.perform (takeNotification setup form)).2 = (engine.settle notification).2) ∧
      ∀ request : HttpRequest, Route.ofPath? request.path = some .callback →
        request.method = "POST" → callbackForm? request = form →
          engine.run (answer setup request) = engine.run (takeNotification setup form) := by
  have idle (form : Option CallbackForm) (passed : IsPassedOver setup form) :
      engine.run (takeNotification setup form) = (.ok acknowledged, engine) := by
    rw [run_takeNotification, isPassedOver_iff.mp passed]
  refine ⟨?_, rfl, ⟨_, rfl, by decide⟩, fun passed => ⟨idle form passed, ?_⟩,
    fun other passed alike => (idle form passed).trans (idle other alike).symm, fun acts => ?_,
    fun request place posted same => same ▸ answer_callback setup engine place posted⟩
  · rw [run_takeNotification]
  · simp only [Engine.perform, idle form passed]
  · obtain ⟨notification, found⟩ :=
      Option.ne_none_iff_exists'.mp fun missing => acts (isPassedOver_iff.mpr missing)
    obtain ⟨given, rfl, told⟩ := Option.bind_eq_some_iff.mp found
    have settled : (engine.run (takeNotification setup (some given))).2 =
        (engine.run (Settlement.settle notification)).2 := by
      rw [run_takeNotification, found]
    refine ⟨given, notification, rfl, notificationOf?_eq_some.mp told, settled, ?_⟩
    simp only [Engine.perform, Engine.settle, settled]

/-- A form with the token and the number of a bill acts for what it tells. -/
example (setup : Setup) (asked : setup.callbackToken = some "t") :
    ActsFor setup ⟨"\x7b\"bill_link_id\":7\x7d", some "t"⟩
      ⟨"", "", 7, "", "", "", "", 0, "", "", ""⟩ :=
  ⟨fun _ given => asked.symm.trans given, rfl⟩

end BoxOffice.Http
