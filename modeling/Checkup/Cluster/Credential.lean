import Checkup.Cluster.Certificate
import Checkup.Fault
import Checkup.Files.System
import Checkup.Text.Quoted

/-!
# Credentials

How the users of a cluster prove who they are. An access file may name a provider of tokens, an account, a
token, a file that holds one, and a command that finds one; the first of these that is given, in this
order, counts. Beside it there may be a certificate with its key. No command is run: none is ever found.
-/
namespace Checkup.Cluster

/-! ## Data and files -/

/-- Something that an access file holds in base64 or keeps in another file; the data come first. -/
structure Material where
  data : Option String
  path : Option String
  deriving DecidableEq, Repr

namespace Material

/-- The bytes, if there is anything. -/
def load (m : Material) (fs : Files.FileSystem) : Except String (Option (List UInt8)) :=
  match m.data, m.path with
  | some data, _ =>
    match Text.Base64.decode? data.toList with
    | some bytes => .ok (some bytes)
    | none => .error "failed to decode base64"
  | none, some path =>
    match fs.read path with
    | .ok text => .ok (some (Certificate.bytesOf text))
    | .error e => .error e.message
  | none, none => .ok none

/-- The same, with the path relative to a directory. -/
def inDirectory (dir : String) (m : Material) : Material := { m with path := m.path.map (Files.join dir) }

end Material

/-! ## Users -/

structure TokenProvider where
  name : String
  settings : List (String × String)
  deriving DecidableEq, Repr

structure TokenCommand where
  program : Option String
  deriving DecidableEq, Repr

structure UserEntry where
  provider : Option TokenProvider
  username : Option String
  password : Option String
  token : Option String
  tokenFile : Option String
  command : Option TokenCommand
  certificate : Material
  key : Material
  deriving DecidableEq, Repr

inductive Credential where
  | nothing
  | token (text : String)
  | account (name password : String)
  deriving DecidableEq, Repr

inductive CredentialError where
  | unknownProvider (name : String)
  | providerWithoutToken
  | commandWithoutProgram
  | commandFailed (cause : Files.FileError)
  | unreadableToken (path : String) (cause : Files.FileError)
  deriving DecidableEq, Repr

namespace CredentialError

def message : CredentialError → String
  | unknownProvider name => s!"failed exec auth: Authentication with provider {name} not supported"
  | providerWithoutToken => "failed exec auth: No id-token for oidc Authentication provider"
  | commandWithoutProgram => "command must be specified to use exec authentication plugin"
  | commandFailed cause => s!"unable to run auth exec: {cause.message}"
  | unreadableToken path cause =>
    s!"failed to read token file '{Text.quoted path}': {cause.message}"

/-- What went wrong with a file or a program. -/
def cause? : CredentialError → Option Files.FileError
  | commandFailed cause => some cause
  | unreadableToken _ cause => some cause
  | _ => none

end CredentialError

namespace UserEntry

def ofProvider (p : TokenProvider) : Except CredentialError Credential :=
  match p.name, p.settings.lookup "id-token" with
  | "oidc", some token => .ok (.token token)
  | "oidc", none => .error .providerWithoutToken
  | "gcp", some token => .ok (.token token)
  | name, _ => .error (.unknownProvider name)

def ofFile (fs : Files.FileSystem) (path : String) : Except CredentialError Credential :=
  match fs.read path with
  | .ok text => .ok (.token (String.ofList (text.toList.reverse.dropWhile Text.isBlankChar).reverse))
  | .error e => .error (.unreadableToken path e)

def ofCommand (c : TokenCommand) : Except CredentialError Credential :=
  match c.program with
  | none => .error .commandWithoutProgram
  | some _ => .error (.commandFailed .notFound)

def credential (u : UserEntry) (fs : Files.FileSystem) : Except CredentialError Credential :=
  match u.provider, u.username, u.password, u.token, u.tokenFile, u.command with
  | some provider, _, _, _, _, _ => ofProvider provider
  | none, some name, some password, _, _, _ => .ok (.account name password)
  | none, _, _, some token, _, _ => .ok (.token token)
  | none, _, _, none, some path, _ => ofFile fs path
  | none, _, _, none, none, some command => ofCommand command
  | none, _, _, none, none, none => .ok .nothing

/-- The key and the certificate of a user, one behind the other; none if one of them cannot be had. -/
def identity? (u : UserEntry) (fs : Files.FileSystem) : Option (List UInt8) := do
  return (← (← (u.key.load fs).toOption)) ++ (← (← (u.certificate.load fs).toOption))

/-- The same user, with the paths relative to a directory. -/
def inDirectory (dir : String) (u : UserEntry) : UserEntry :=
  { u with
    tokenFile := u.tokenFile.map (Files.join dir)
    certificate := u.certificate.inDirectory dir
    key := u.key.inDirectory dir }

end UserEntry

/-! ## Clients -/

/-- The fault of a client that cannot be made, and what is behind it. -/
def clientFault (part message : String) (cause : Option String) : Fault :=
  let inner : Fault := match cause with
    | some text => .context message (.message text)
    | none => .message message
  .context "creating Kubernetes client" (.context s!"{part} error: {message}" inner)

def CredentialError.fault (e : CredentialError) : Fault :=
  clientFault "auth" e.message (e.cause?.map (·.message))

def keyKinds : List String := ["PRIVATE KEY", "RSA PRIVATE KEY", "EC PRIVATE KEY"]

/-- Checks that the identity of a user holds a key and a certificate. -/
def checkIdentity (bytes : List UInt8) : Except Fault Unit :=
  let kinds := Certificate.kinds bytes
  let failed (message : String) : Except Fault Unit := .error (clientFault "rustls tls" message none)
  if !kinds.any keyKinds.contains then
    failed "identity PEM is missing a private key: the key must be PKCS8 or RSA/PKCS1"
  else if !kinds.contains Certificate.kind then failed "identity PEM is missing certificate"
  else .ok ()

/-- Checks that the certificates of an authority are ones. -/
def checkRoots (certificates : List (List UInt8)) : Except Fault Unit :=
  if certificates.all Certificate.isCertificate then .ok ()
  else
    let cause := "invalid peer certificate: BadEncoding"
    .error (clientFault "rustls tls" s!"failed to add a root certificate: {cause}" (some cause))

end Checkup.Cluster
