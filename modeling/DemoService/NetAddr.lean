import DemoService.RustText

/-! Socket addresses and their textual forms as Rust's standard library reads
them. Name lookup is a parameter. -/

namespace NetAddr

open RustText

inductive IpAddr
  | v4 (a b c d : Nat)
  | v6 (segments : List Nat)
  deriving DecidableEq, Repr

structure SocketAddr where
  ip : IpAddr
  port : Nat
  scopeId : Nat
  deriving DecidableEq, Repr

def SocketAddr.new (ip : IpAddr) (port : Nat) : SocketAddr := { ip, port, scopeId := 0 }

/-- A reader of a prefix; it fails without consuming anything. -/
abbrev Reader (α : Type) := Str → Option (α × Str)

def readGivenChar (c : Char) : Reader Unit
  | d :: rest => if d = c then some ((), rest) else none
  | [] => none

def readNumber (bound radix : Nat) (maxDigits : Option Nat) (allowZeroPrefix : Bool) : Reader Nat :=
  fun s =>
    let digits := s.takeWhile (fun c => (digit? radix c).isSome)
    if digits = [] then none
    else if maxDigits.any (· < digits.length) then none
    else if !allowZeroPrefix && digits.head? = some '0' && 1 < digits.length then none
    else (digitsBelow bound radix 0 digits).map (fun n => (n, s.drop digits.length))

def readSeparator {α : Type} (sep : Char) (first : Bool) (inner : Reader α) : Reader α :=
  fun s => if first then inner s else (readGivenChar sep s).bind (fun (_, rest) => inner rest)

def readOctet : Reader Nat := readNumber 256 10 (some 3) false

def readIpv4Addr : Reader (Nat × Nat × Nat × Nat) := fun s => do
  let (a, s) ← readOctet s
  let (b, s) ← readSeparator '.' false readOctet s
  let (c, s) ← readSeparator '.' false readOctet s
  let (d, s) ← readSeparator '.' false readOctet s
  pure ((a, b, c, d), s)

/-- Reads up to `limit` 16-bit groups; the flag tells that they end in an embedded IPv4 address. -/
def readGroups (first : Bool) : (limit : Nat) → Str → List Nat × Bool × Str
  | 0, s => ([], false, s)
  | n + 1, s =>
    match (if 0 < n then readSeparator ':' first readIpv4Addr s else none) with
    | some ((a, b, c, d), rest) => ([a * 256 + b, c * 256 + d], true, rest)
    | none =>
      match readSeparator ':' first (readNumber 65536 16 (some 4) true) s with
      | none => ([], false, s)
      | some (group, rest) =>
        let (groups, v4, rest) := readGroups false n rest
        (group :: groups, v4, rest)

def readIpv6Addr : Reader (List Nat) := fun s =>
  let (head, headV4, rest) := readGroups true 8 s
  if head.length = 8 then some (head, rest)
  else if headV4 then none
  else do
    let (_, rest) ← readGivenChar ':' rest
    let (_, rest) ← readGivenChar ':' rest
    let (tail, _, rest) := readGroups true (8 - (head.length + 1)) rest
    pure (head ++ List.replicate (8 - head.length - tail.length) 0 ++ tail, rest)

def readIpAddr : Reader IpAddr := fun s =>
  match readIpv4Addr s with
  | some ((a, b, c, d), rest) => some (.v4 a b c d, rest)
  | none => (readIpv6Addr s).map (fun (segments, rest) => (.v6 segments, rest))

def readPort : Reader Nat := fun s => do
  let (_, s) ← readGivenChar ':' s
  readNumber 65536 10 none true s

def readScopeId : Reader Nat := fun s => do
  let (_, s) ← readGivenChar '%' s
  readNumber 4294967296 10 none true s

def readSocketAddrV4 : Reader SocketAddr := fun s => do
  let ((a, b, c, d), s) ← readIpv4Addr s
  let (port, s) ← readPort s
  pure (.new (.v4 a b c d) port, s)

def readSocketAddrV6 : Reader SocketAddr := fun s => do
  let (_, s) ← readGivenChar '[' s
  let (segments, s) ← readIpv6Addr s
  let (scopeId, s) := (readScopeId s).getD (0, s)
  let (_, s) ← readGivenChar ']' s
  let (port, s) ← readPort s
  pure ({ ip := .v6 segments, port, scopeId }, s)

def readSocketAddr : Reader SocketAddr := fun s =>
  match readSocketAddrV4 s with
  | some r => some r
  | none => readSocketAddrV6 s

def parseWith {α : Type} (reader : Reader α) (s : Str) : Option α :=
  match reader s with
  | some (a, []) => some a
  | _ => none

/-- `str::parse::<IpAddr>`. -/
def parseIpAddr : Str → Option IpAddr := parseWith readIpAddr

/-- `str::parse::<SocketAddr>`. -/
def parseSocketAddr : Str → Option SocketAddr := parseWith readSocketAddr

example : parseSocketAddr "10.0.0.1:5060".toList = some (.new (.v4 10 0 0 1) 5060) := by decide

example : parseIpAddr "::ffff:1.2.3.4".toList = some (.v6 [0, 0, 0, 0, 0, 65535, 258, 772]) := by
  decide

/-- What the host's resolver answers for a name and a port. -/
abbrev Resolver := Str → Nat → Option (List SocketAddr)

/-- `str::to_socket_addrs`. -/
def toSocketAddrs (resolve : Resolver) (s : Str) : Option (List SocketAddr) :=
  match parseSocketAddr s with
  | some addr => some [addr]
  | none => do
    let (host, portText) ← rsplitOnce ':' s
    let port ← parseU16 portText
    resolve host port

end NetAddr
