import Tether.Endpoint

/-!
# How a context obtains its connection

A strategy stands for one call of a connector. A simulator address is taken from
the environment only if neither its host nor its port is given.
-/
namespace Tether

/-- The calls a connector answers. -/
inductive Call where
  | fromEnvironment
  | arq
  | arqTo (ip : String)
  | sim
  | simTo (host : Option String) (port : Option UInt16)
  deriving DecidableEq, Repr

inductive Strategy where
  | auto
  | arq (ip : Option String)
  | sim (host : Option String) (port : Option UInt16)
  deriving DecidableEq, Repr, Inhabited

/-- Strategies without their addresses. -/
inductive Strategy.Label where
  | auto | arq | sim
  deriving DecidableEq, Repr

def Strategy.Label.text : Strategy.Label → String
  | auto => "auto"
  | arq => "arq"
  | sim => "sim"

namespace Strategy

def label : Strategy → Label
  | auto => .auto
  | arq _ => .arq
  | sim _ _ => .sim

def call : Strategy → Call
  | auto => .fromEnvironment
  | arq none => .arq
  | arq (some ip) => .arqTo ip
  | sim none none => .sim
  | sim host port => .simTo host port

/-- The strategy with its address; what is missing is shown by a question mark. -/
def text : Strategy → String
  | auto => "auto"
  | arq none => "arq(env)"
  | arq (some ip) => "arq(" ++ ip ++ ")"
  | sim none none => "sim(env)"
  | sim host port =>
    "sim(" ++ host.getD "?" ++ ":" ++ (port.map Endpoint.portText).getD "?" ++ ")"

def shown : Strategy → String
  | auto => "Auto"
  | arq ip => Text.record "Arq" [("ip_address", Text.optional (ip.map Text.quoted))]
  | sim host port =>
    Text.record "Sim"
      [("ip_address", Text.optional (host.map Text.quoted)),
       ("port", Text.optional (port.map Endpoint.portText))]

end Strategy
end Tether
