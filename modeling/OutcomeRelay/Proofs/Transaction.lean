import OutcomeRelay.Publish.Transaction

set_option autoImplicit false

namespace OutcomeRelay

namespace Handle

@[simp] theorem record_id (h : Handle) (operation : Operation) (reply : Reply) :
    (h.record operation reply).id = h.id := rfl

@[simp] theorem markFatal_session (h : Handle) : h.markFatal.session = h.session := by
  unfold markFatal
  split <;> rfl

@[simp] theorem markFatal_id (h : Handle) : h.markFatal.id = h.id := by
  unfold markFatal
  split <;> rfl

@[simp] theorem perform_session (h : Handle) (request : Request) (answer : Option Reply) :
    (h.perform request answer).2.session = h.session := by
  unfold perform
  split <;> rfl

@[simp] theorem perform_id (h : Handle) (request : Request) (answer : Option Reply) :
    (h.perform request answer).2.id = h.id := by
  unfold perform
  split <;> rfl

end Handle

namespace Transaction

/-- They publish the same record on the same session under the same transactional id. -/
structure Alike (t u : Transaction) : Prop where
  session : u.handle.session = t.handle.session
  id : u.handle.id = t.handle.id
  topic : u.topic = t.topic
  payload : u.payload = t.payload

theorem Alike.rfl {t : Transaction} : t.Alike t := ⟨.refl _, .refl _, .refl _, .refl _⟩

theorem Alike.trans {t u v : Transaction} (h : t.Alike u) (k : u.Alike v) : t.Alike v :=
  ⟨k.session.trans h.session, k.id.trans h.id, k.topic.trans h.topic, k.payload.trans h.payload⟩

variable (t : Transaction)

theorem enter_alike (phase : Phase) : t.Alike (t.enter phase) := ⟨rfl, rfl, rfl, rfl⟩

theorem afterBegin_alike (reply : Reply) : t.Alike (t.afterBegin reply) := by
  cases reply with
  | ok _ => exact t.enter_alike _
  | error error =>
    simp only [afterBegin]
    split <;> exact t.enter_alike _

theorem afterFailure_alike (retry : Backoff) (step : Step) (failures : UInt32)
    (error : BrokerError) : t.Alike (t.afterFailure retry step failures error) := by
  unfold afterFailure
  split
  · exact t.enter_alike _
  · exact t.enter_alike _
  · split <;> exact t.enter_alike _

theorem afterStep_alike (retry : Backoff) (cancelled : Bool) (step : Step) (failures : UInt32)
    (reply : Reply) : t.Alike (t.afterStep retry cancelled step failures reply) := by
  cases reply with
  | error error => exact t.afterFailure_alike retry step failures error
  | ok _ =>
    cases step with
    | commit => exact t.enter_alike _
    | send =>
      simp only [afterStep]
      split <;> exact t.enter_alike _

theorem afterAbort_alike (retry : Backoff) (reason : PublishError) (failures : UInt32)
    (reply : Reply) : t.Alike (t.afterAbort retry reason failures reply) := by
  cases reply with
  | ok _ => exact t.enter_alike _
  | error error =>
    simp only [afterAbort]
    split
    · exact t.enter_alike _
    · split
      · exact t.enter_alike _
      · split
        · exact t.enter_alike _
        · exact ⟨by simp [finish, enter], by simp [finish, enter], rfl, rfl⟩

theorem afterReply_alike (retry : Backoff) (cancelled : Bool) (reply : Reply) :
    t.Alike (t.afterReply retry cancelled reply) := by
  unfold afterReply
  split
  · exact t.afterBegin_alike reply
  · exact t.afterStep_alike retry cancelled _ _ reply
  · exact t.afterAbort_alike retry _ _ reply
  · exact .rfl

theorem settle_alike (retry : Backoff) (cancelled : Bool) (answer : Option Reply) :
    t.Alike (t.settle retry cancelled answer) := by
  unfold settle
  split
  · exact .rfl
  · rename_i request _
    have perform : t.Alike { t with handle := (t.handle.perform request answer).2 } :=
      ⟨by simp, by simp, rfl, rfl⟩
    exact perform.trans (afterReply_alike _ retry cancelled _)

theorem resume_alike (retry : Backoff) (cancelled : Bool) (signal : Signal) :
    t.Alike (t.resume retry cancelled signal) := by
  unfold resume
  split
  · split <;> exact t.enter_alike _
  · exact t.enter_alike _
  · exact t.settle_alike retry cancelled _
  · exact t.settle_alike retry cancelled none
  · split
    · exact t.settle_alike retry cancelled none
    · exact .rfl
  · exact .rfl

end Transaction

end OutcomeRelay
