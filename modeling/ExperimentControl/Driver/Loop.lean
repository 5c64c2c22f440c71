import ExperimentControl.Driver.Runner

/-!
The run loop of a driver (`DeviceRunner.run`): one thread that decodes requests, handles and answers
them, and publishes heartbeats, telemetry and scheduled streams, with no handler around it.
-/

namespace ExperimentControl.Driver
open Lib Python

structure LoopSetup where
  py : Builtins
  interp : Interpreter
  cfg : Config
  deviceId : String
  heartbeatPeriodS : ℚ
  telemetryPeriodS : ℚ
  /-- `recv_json` of the socket, on the bytes of a message -/
  recvJson : List UInt8 → Except Exc Value

structure LoopState where
  runner : Runner
  nextHb : ℚ
  nextTel : ℚ
  received : List (List UInt8)
  sent : List Reply

structure Iteration where
  message : Option (List UInt8)
  turn : Turn
  now : ℚ
  nowStreams : ℚ
  telemetry : TelemetryTurn
  streams : Nat → StreamRun

def Reply.toJson (reply : Reply) : Obj :=
  match reply.body with
  | .ok result => .dict [(.str "id",.json reply.id),(.str "status",.str "OK"),(.str "result",result)]
  | .error (error,code) =>
    .dict ([(.str "id",.json reply.id),(.str "status",.str "ERROR"),(.str "error",.str error)] ++
      match code with
      | some code => [(.str "error_code",.str code)]
      | none => [])

def ExcClass.isTypeOrValueError : ExcClass → Bool
  | .typeError | .valueError | .arrayResult | .caller .badParameters => true
  | _ => false

variable (su : LoopSetup)

namespace LoopSetup

/-- `self.rpc.send_json(resp, default=_json_reply_default)`: the reply that is sent, or the exception -/
def sendJson (reply : Reply) : Except Exc Reply :=
  match dumpsError su.interp true 0 reply.toJson with
  | none => .ok reply
  | some exc => .error exc

def notSerializableText (action : Value) (exc : Exc) (text : String) : String :=
  let shown := su.py.values.repr action
  match exc.cls with
  | .arrayResult =>
    let streamAction := "stream__" ++ action.text su.py.values.repr
    let hint := if streamAction ∈ su.cfg.streamActions then
      "; use " ++ su.py.values.repr (.str streamAction) ++ " to acquire it as stream data" else ""
    "result of " ++ shown ++ " is a " ++ text ++ " and is not sent over RPC" ++ hint
  | _ => "result of " ++ shown ++ " is not JSON serializable: " ++ text

def sendRpcReply (reply : Reply) (action : Value) : Except Exc Reply :=
  match su.sendJson reply with
  | .ok sent => .ok sent
  | .error exc =>
    if exc.cls.isTypeOrValueError then
      match exc.str with
      | .error raised => .error raised
      | .ok text => su.sendJson (rpcError reply.id (su.notSerializableText action exc text)
          "result_not_serializable")
    else .error exc

def serve (turn : Turn) (message : List UInt8) (s : LoopState) : Except Exc Unit × LoopState :=
  let s := { s with received := s.received ++ [message] }
  match su.recvJson message with
  | .error exc => (.error exc,s)
  | .ok (.dict _ payload) =>
    let operation := "rpc:" ++ (getD payload "action" (.str "unknown")).text su.py.values.repr
    match handleRpcRequest su.py su.cfg turn payload (s.runner.beginOperation operation) with
    | (.error exc,r) => (.error exc,{ s with runner := r.endOperation })
    | (.ok reply,r) =>
      let s := { s with runner := r.endOperation }
      match su.sendRpcReply reply (getKey payload "action") with
      | .error exc => (.error exc,s)
      | .ok sent => (.ok (),{ s with sent := s.sent ++ [sent] })
  | .ok _ =>
    match su.sendRpcReply (rpcError .none "Malformed request" none) .none with
    | .error exc => (.error exc,s)
    | .ok sent => (.ok (),{ s with sent := s.sent ++ [sent] })

def publish (it : Iteration) (s : LoopState) : Except Exc Unit × LoopState :=
  let s := if s.nextHb ≤ it.now then
    { s with runner := s.runner.publishHeartbeat,nextHb := it.now+su.heartbeatPeriodS } else s
  let streams (s : LoopState) : Except Exc Unit × LoopState :=
    let (result,moments) := s.runner.publishScheduledStreams it.nowStreams it.streams
    (result,{ s with runner := moments.getLastD s.runner })
  if s.nextTel ≤ it.now then
    match s.runner.publishTelemetry su.py su.interp su.cfg su.deviceId it.telemetry with
    | (.error exc,r) => (.error exc,{ s with runner := r })
    | (.ok (),r) => streams { s with runner := r,nextTel := it.now+su.telemetryPeriodS }
  else streams s

def iterate (it : Iteration) (s : LoopState) : Except Exc Unit × LoopState :=
  match it.message with
  | none => su.publish it s
  | some message =>
    match su.serve it.turn message s with
    | (.error exc,s) => (.error exc,s)
    | (.ok (),s) => su.publish it s

/-- `while not self._stop`; an exception ends the loop, and the process with it. -/
def runLoop : List Iteration → LoopState → Except Exc Unit × LoopState
  | [],s => (.ok (),s)
  | it :: rest,s =>
    if s.runner.stop then (.ok (),s)
    else match su.iterate it s with
      | (.error exc,s) => (.error exc,s)
      | (.ok (),s) => runLoop rest s

end LoopSetup

end ExperimentControl.Driver
