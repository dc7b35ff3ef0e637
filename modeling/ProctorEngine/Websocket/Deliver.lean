import ProctorEngine.Lib.JsonTree
import ProctorEngine.Websocket.Server

/-!
# What the server writes

The three texts a connection carries to the client: the heartbeat's `ping`, the acknowledgement
of a frame and the kill-switch, each as `websocket.send_json` writes it, without a blank and with
nothing escaped that need not be. A `policy_update` is declared and never sent.
-/

set_option autoImplicit false

namespace ProctorEngine

open JsonText

inductive Deliver where
  | ping
  | ack (seq : Nat) (receivedAt : DateTime)
  | killSwitch (payload : KillSwitchPayload)

namespace Deliver

/-- `to_json_dict`, and the dictionary of the heartbeat. `isoformat` is the text of a
    `datetime`. -/
def toJsonDict (isoformat : DateTime → String) : Deliver → Tree
  | .ping => .obj [("type", .scalar (.str "ping"))]
  | .ack seq receivedAt =>
    .obj [("type", .scalar (.str "ack")),
      ("payload", .obj [("seq", .scalar (.int seq)),
        ("received_at", .scalar (.str (isoformat receivedAt)))])]
  | .killSwitch payload =>
    .obj [("type", .scalar (.str "kill_switch")),
      ("payload", .obj [("reason", .scalar (.str payload.reason)),
        ("flag_id", .scalar (.str payload.flagId))])]

def sendJson (isoformat : DateTime → String) (d : Deliver) : List Char :=
  (d.toJsonDict isoformat).write

end Deliver

end ProctorEngine
