import OrderReplay.CommandLine.Option
import OrderReplay.Failure
import OrderReplay.Okapi.Client

/-! The settings of a run, made of the options of the command line. -/
namespace OrderReplay

structure Settings where
  logPath : Text
  baseUrl : Text
  tenant : Text
  credentials : Okapi.Credentials
  /-- Seconds that a request may take; it may take forever if there are none. -/
  timeout : Option Nat
  deriving DecidableEq, Repr

namespace Settings

inductive Problem where
  | hostEmpty
  | tenantEmpty
  | logEmpty
  deriving DecidableEq, Repr

def Problem.message : Problem → Text
  | .hostEmpty => "OKAPI_HOST is empty".toList
  | .tenantEmpty => "OKAPI_TENANT is empty".toList
  | .logEmpty => "ORDER_LOGS is empty".toList

def Problem.failure (p : Problem) : Failure := .settings p.message

def plainScheme : Text := "http://".toList
def secureScheme : Text := "https://".toList

/-- The base address of a host. The secure scheme is taken unless the host names one
itself, in lower case. -/
def baseUrlOf (host : Text) : Text :=
  let host := Text.trimEnd '/' host
  if plainScheme.isPrefixOf host || secureScheme.isPrefixOf host then host
  else secureScheme ++ host

/-- The settings that options give. Host and tenant count without the blanks around
them; everything else counts as it is. -/
def ofOptions (o : CommandLine.Options) : Except Problem Settings :=
  let host := Text.trim o.host
  let tenant := Text.trim o.tenant
  if host.isEmpty then .error .hostEmpty
  else if tenant.isEmpty then .error .tenantEmpty
  else if o.orderLogs.isEmpty then .error .logEmpty
  else .ok ⟨o.orderLogs, baseUrlOf host, tenant, ⟨o.username, o.password⟩,
    if o.timeout = 0 then none else some o.timeout⟩

def client (s : Settings) : Okapi.Client :=
  { Okapi.Client.ofBase s.baseUrl s.tenant with timeout := s.timeout }

def timeoutShown : Option Nat → Text
  | none => "None".toList
  | some seconds => "Some(".toList ++ Text.ofNat seconds ++ "s)".toList

def shown (s : Settings) : Text :=
  Okapi.shownFields "Config"
    [("log_path", Text.Quoted.render s.logPath), ("base_url", Text.Quoted.render s.baseUrl),
      ("tenant", Text.Quoted.render s.tenant), ("credentials", s.credentials.shown),
      ("request_timeout", timeoutShown s.timeout)]

end Settings
end OrderReplay
