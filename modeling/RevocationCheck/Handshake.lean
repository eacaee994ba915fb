import RevocationCheck.TrustPath
import RevocationCheck.Verification

/-!
# Handshakes

A client that presents certificates is accepted if a valid path leads from its certificate to a
trusted root and the path passes the revocation check.  The check is asked about each
certificate of a path, from the root down to the leaf, and the first refusal ends the handshake.
It goes along with what has been found about every certificate but the leaf; at the leaf, where
the chain is complete, it verifies the chain.
-/

namespace RevocationCheck.Handshake

/-- A question to the check. -/
structure Query where
  /-- Is the certificate in order so far? -/
  verdict : Bool
  /-- How far the certificate is from the leaf. -/
  depth : Nat
  /-- The certificates from the leaf to the root, if they are at hand: what each is encoded as, or
  why it could not be encoded. -/
  chain : Option (List (Except String Octets))
deriving Repr

/-- The answer of the check, and the URLs it asked for. -/
structure Reply where
  accepted : Bool
  fetched : List String
deriving Repr, DecidableEq

/-- Why a chain is refused. -/
inductive Fault
  | noChain
  | unencodable (reason : String)
  | undecodable (fault : X509.Fault)
  | rejected (failure : Failure)
deriving Repr, DecidableEq

/-- The text of a fault. -/
def Fault.message : Fault → String
  | noChain => "peer certificate chain unavailable"
  | unencodable reason => reason
  | undecodable fault => "failed to parse peer certificate: " ++ fault.message
  | rejected failure => failure.message

/-- The certificates of a chain, all of which have to be encoded before any is decoded. -/
def readChain (chain : Option (List (Except String Octets))) :
    Except Fault (List X509.Certificate) :=
  match chain with
  | none => .error .noChain
  | some encodings =>
    match encodings.mapM id with
    | .error reason => .error (.unencodable reason)
    | .ok ders =>
      match X509.decodeChain ders with
      | .error fault => .error (.undecodable fault)
      | .ok certificates => .ok certificates

/-- Check encoded certificates as one verified chain. -/
def checkChain (world : World) (policy : Policy) (chain : Option (List (Except String Octets))) :
    List String × Except Fault Unit :=
  match readChain chain with
  | .error fault => ([], .error fault)
  | .ok certificates =>
    let checked := Verification.verifyChains world policy [certificates]
    (checked.fetched,
      match checked.result with
      | .error failure => .error (.rejected failure)
      | .ok () => .ok ())

/-- Answer a question. -/
def answer (world : World) (policy : Policy) (query : Query) : Reply :=
  if query.verdict && query.depth == 0 then
    let (fetched, result) := checkChain world policy query.chain
    ⟨result.isOk, fetched⟩
  else ⟨query.verdict, []⟩

/-- Answer questions up to the first refusal. -/
def answerAll (world : World) (policy : Policy) : List Query → Reply
  | [] => ⟨true, []⟩
  | query :: rest =>
    let reply := answer world policy query
    if reply.accepted then
      let others := answerAll world policy rest
      ⟨others.accepted, reply.fetched ++ others.fetched⟩
    else reply

/-- The questions about a valid path. -/
def queriesOf (path : List EncodedCertificate) : List Query :=
  (List.range path.length).reverse.map fun depth =>
    ⟨true, depth, some (path.map fun certificate => .ok certificate.octets)⟩

/-- How a handshake ends. -/
inductive Outcome
  /-- There is no valid path to a root. -/
  | untrusted
  /-- The path did not pass the revocation check. -/
  | rejected
  | accepted
deriving Repr, DecidableEq

/-- A handshake with a client that presents certificates, its own one first. -/
def run (world : World) (policy : Policy) (roots presented : List EncodedCertificate) :
    Outcome × List String :=
  match presented with
  | [] => (.untrusted, [])
  | leaf :: others =>
    match TrustPath.find? roots others leaf with
    | none => (.untrusted, [])
    | some path =>
      let reply := answerAll world policy (queriesOf path)
      (if reply.accepted then .accepted else .rejected, reply.fetched)

end RevocationCheck.Handshake
