import OrderReplay.Text.Basic

/-! The options of the command line. Each has a flag and an environment variable. -/
namespace OrderReplay.CommandLine

inductive Opt where
  | orderLogs
  | host
  | tenant
  | username
  | password
  | timeout
  deriving DecidableEq, Repr

namespace Opt

def all : List Opt := [.orderLogs, .host, .tenant, .username, .password, .timeout]

theorem mem_all (o : Opt) : o ∈ all := by cases o <;> simp [all]

def flag : Opt → Text
  | .orderLogs => "order-logs".toList
  | .host => "okapi-host".toList
  | .tenant => "okapi-tenant".toList
  | .username => "okapi-username".toList
  | .password => "okapi-password".toList
  | .timeout => "timeout-secs".toList

def envName : Opt → Text
  | .orderLogs => "ORDER_LOGS".toList
  | .host => "OKAPI_HOST".toList
  | .tenant => "OKAPI_TENANT".toList
  | .username => "OKAPI_USERNAME".toList
  | .password => "OKAPI_PASSWORD".toList
  | .timeout => "OKAPI_TIMEOUT_SECS".toList

def valueName : Opt → Text
  | .orderLogs => "ORDER_LOGS".toList
  | .host => "OKAPI_HOST".toList
  | .tenant => "OKAPI_TENANT".toList
  | .username => "OKAPI_USERNAME".toList
  | .password => "OKAPI_PASSWORD".toList
  | .timeout => "TIMEOUT_SECS".toList

def ofFlag? (name : Text) : Option Opt := all.find? fun o => o.flag == name

def shown (o : Opt) : Text := '-' :: '-' :: o.flag ++ " <".toList ++ o.valueName ++ ['>']

theorem ofFlag?_flag (o : Opt) : ofFlag? o.flag = some o := by cases o <;> decide

end Opt

structure Options where
  orderLogs : Text
  host : Text
  tenant : Text
  username : Text
  password : Text
  timeout : Nat
  deriving DecidableEq, Repr

def defaultTimeout : Nat := 60

end OrderReplay.CommandLine
