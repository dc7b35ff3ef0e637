import ProctorEngine.Browser.RollingBuffer
import ProctorEngine.Browser.WsClient
import ProctorEngine.Websocket.Server

/-!
# `handleKillSwitch`

What the page does on a kill-switch: lock, drain, acknowledge; and on a flag it has handled
before, acknowledge only. What a call does to the page and the wire is the list of its effects.
The page it runs on has the place the overlay goes to: `main.ts` names no container, and the
overlay goes to the body.
-/

set_option autoImplicit false

namespace ProctorEngine.Browser

/-- What `showLockoutOverlay` looks up in the page. -/
structure PageDocument where
  body : Bool
  elementIds : List String
deriving DecidableEq, Repr

/-- The container of the overlay: the named element, or the body if there is no name. -/
def hasContainer (document : Option PageDocument) (overlayContainerId : Option String) : Bool :=
  match document, overlayContainerId with
  | none, _ => false
  | some document, none | some document, some "" => document.body
  | some document, some id => id ∈ document.elementIds

/-- `REASON_MESSAGES`, every value of which is `DEFAULT_MESSAGE`. -/
def reasonMessages : List (String × String) :=
  ["second_person", "gaze_away_frequency", "accumulated_score", "liveness_check_failed",
    "identity_mismatch"].map fun reason => (reason, "This session has ended and is pending review.")

def defaultMessage : String := "This session has ended and is pending review."

inductive PageEffect where
  /-- The form controls are disabled and the overlay is added, with its message. -/
  | lock (message : String)
  | drain (entries : List RollingBufferEntry)
  /-- `ws.send` of the acknowledgement. -/
  | ack (flagId : String)
deriving DecidableEq, Repr

@[simp] def PageEffect.isLock : PageEffect → Bool
  | .lock _ => true
  | .drain _ | .ack _ => false

@[simp] def PageEffect.isDrain : PageEffect → Bool
  | .drain _ => true
  | .lock _ | .ack _ => false

@[simp] def PageEffect.acked? : PageEffect → Option String
  | .ack flagId => some flagId
  | .lock _ | .drain _ => none

/-- `KillSwitchResult`. -/
structure KillSwitchResult where
  bufferedEntries : List RollingBufferEntry
  flagId : String
  reason : String
deriving DecidableEq, Repr

/-- The page the handler runs on; the proof field is that the overlay has a place. -/
structure KillSwitchPage where
  document : Option PageDocument
  overlayContainerId : Option String
  handledFlagIds : List String
  rollingBuffer : RollingBuffer
  container : hasContainer document overlayContainerId = true

namespace KillSwitchPage

/-- The page of `index.html`, as `main.ts` wires it. -/
def boot : KillSwitchPage where
  document := some ⟨true, ["status-bar", "status-dot", "status-text", "main-content",
    "error-display"]⟩
  overlayContainerId := none
  handledFlagIds := []
  rollingBuffer := .new 10000
  container := rfl

/-- `showLockoutOverlay`. -/
def showLockoutOverlay (page : KillSwitchPage) (reason : String) : List PageEffect :=
  if hasContainer page.document page.overlayContainerId then
    [.lock ((reasonMessages.lookup reason).getD defaultMessage)]
  else []

/-- `handleKillSwitch`. A flag that was handled before is acknowledged again and has no other
    effect. -/
def handleKillSwitch (page : KillSwitchPage) (payload : KillSwitchPayload) :
    KillSwitchPage × KillSwitchResult × List PageEffect :=
  if payload.flagId ∈ page.handledFlagIds then
    (page, ⟨[], payload.flagId, payload.reason⟩, [.ack payload.flagId])
  else
    let (bufferedEntries, rollingBuffer) := page.rollingBuffer.drain
    ({ page with
        handledFlagIds := payload.flagId :: page.handledFlagIds
        rollingBuffer },
      ⟨bufferedEntries, payload.flagId, payload.reason⟩,
      page.showLockoutOverlay payload.reason ++ [.drain bufferedEntries, .ack payload.flagId])

section
variable {page : KillSwitchPage} {payload : KillSwitchPayload}

/-- The two ways a call goes. -/
theorem handleKillSwitch_cases (page : KillSwitchPage) (payload : KillSwitchPayload) :
    (payload.flagId ∈ page.handledFlagIds ∧ (page.handleKillSwitch payload).1 = page ∧
      (page.handleKillSwitch payload).2.1.bufferedEntries = [] ∧
      (page.handleKillSwitch payload).2.2 = [.ack payload.flagId]) ∨
    (payload.flagId ∉ page.handledFlagIds ∧
      (page.handleKillSwitch payload).1.handledFlagIds = payload.flagId :: page.handledFlagIds ∧
      (page.handleKillSwitch payload).1.rollingBuffer.entries = [] ∧
      (page.handleKillSwitch payload).2.1.bufferedEntries = page.rollingBuffer.entries ∧
      ∃ message, (page.handleKillSwitch payload).2.2 =
        [.lock message, .drain page.rollingBuffer.entries, .ack payload.flagId]) := by
  unfold handleKillSwitch
  by_cases h : payload.flagId ∈ page.handledFlagIds
  · rw [if_pos h]
    exact .inl ⟨h, rfl, rfl, rfl⟩
  · rw [if_neg h]
    refine .inr ⟨h, rfl, rfl, rfl, ?_⟩
    simp only [showLockoutOverlay, page.container, if_true, RollingBuffer.drain,
      List.cons_append, List.nil_append]
    exact ⟨_, rfl⟩

/-- The connection's view of a call: the same set of handled flags, and the acknowledgement. -/
theorem handleKillSwitch_wsClient {s : WsClient} {sessionId : SessionId} {now : UtcTime}
    (h : s.handledFlagIds = page.handledFlagIds) :
    (s.handleKillSwitch sessionId payload.flagId now).handledFlagIds =
      (page.handleKillSwitch payload).1.handledFlagIds := by
  have hsend : ∀ s : WsClient, (s.send sessionId (.killSwitchAck ⟨payload.flagId⟩) none
      now).handledFlagIds = s.handledFlagIds := by
    intro s
    unfold WsClient.send WsClient.emit
    split <;> rfl
  unfold WsClient.handleKillSwitch handleKillSwitch
  rw [h]
  by_cases hmem : payload.flagId ∈ page.handledFlagIds
  · rw [if_pos hmem, if_pos hmem, hsend, h]
  · rw [if_neg hmem, if_neg hmem, hsend]

end

end KillSwitchPage
end ProctorEngine.Browser
