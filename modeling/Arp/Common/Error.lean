import Mathlib.Logic.Basic

/-!
# Errors

The error type shared by client and server, with its rendering and the
classification that decides whether the client reconnects.  Errors of foreign
libraries are carried as the text they render to.
-/

namespace Arp.Common

/-- `Error`. -/
inductive Error where
  | io (e : String)
  | protocol (text : String)
  | auth (text : String)
  | config (text : String)
  | transport (text : String)
  | codec (text : String)
  | proxy (text : String)
  | timeout (text : String)
  | invalidMessage (text : String)
  | json (e : String)
  | toml (e : String)
  | channelSend
  | channelRecv
  | connectionClosed
  | other (text : String)
deriving DecidableEq, Repr

namespace Error

/-- `Display for Error`, which is what `to_string` renders. -/
def display : Error → String
  | io e => "IO error: " ++ e
  | protocol text => "Protocol error: " ++ text
  | auth text => "Authentication failed: " ++ text
  | config text => "Configuration error: " ++ text
  | transport text => "Transport error: " ++ text
  | codec text => "Codec error: " ++ text
  | proxy text => "Proxy error: " ++ text
  | timeout text => "Timeout: " ++ text
  | invalidMessage text => "Invalid message type: " ++ text
  | json e => "JSON error: " ++ e
  | toml e => "TOML error: " ++ e
  | channelSend => "Channel send error"
  | channelRecv => "Channel receive error"
  | connectionClosed => "Connection closed"
  | other text => "Other error: " ++ text

/-- `Error::is_retriable`: whether a client reconnects after this error. -/
def isRetriable : Error → Bool
  | io _ | transport _ | timeout _ | connectionClosed | channelSend | channelRecv => true
  | auth _ | config _ | proxy _ | protocol _ | codec _ | invalidMessage _ => false
  | json _ | toml _ | other _ => false

/-- No error renders to the empty text, so an error reply is never mistaken for
a success. -/
theorem display_ne_empty (e : Error) : e.display ≠ "" := by
  cases e with
  | channelSend | channelRecv | connectionClosed => decide
  | _ => exact fun h ↦ absurd (String.append_eq_empty_iff.mp h).1 (by decide)

end Error

/-- `Result`. -/
abbrev Result (α : Type) := Except Error α

/-- A check is passed if what it complains about is not the case. -/
theorem ite_error_eq_ok {α : Type} {p : Prop} [Decidable p] {e : Error} {r : Result α} {a : α} :
    (if p then .error e else r) = .ok a ↔ ¬p ∧ r = .ok a := by
  split <;> simp [*]

end Arp.Common
