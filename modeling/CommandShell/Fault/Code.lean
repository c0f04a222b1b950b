/-!
Stable numbers for everything a user can be told about a line: routing
faults, the reasons for which one overload rejects it, and failures of the
action itself.
-/
namespace CommandShell

inductive FaultCode where
  | unknownCommand
  | noMatchingOverload
  | missingValue
  | parserFailure
  | unparsedTokens
  | delegatedError
  deriving DecidableEq

namespace FaultCode

def all : List FaultCode :=
  [.unknownCommand, .noMatchingOverload, .missingValue, .parserFailure, .unparsedTokens,
    .delegatedError]

def number : FaultCode → Nat
  | .unknownCommand => 11101
  | .noMatchingOverload => 11102
  | .missingValue => 11121
  | .parserFailure => 11122
  | .unparsedTokens => 11123
  | .delegatedError => 11131

def label : FaultCode → String
  | .unknownCommand => "UNKNOWN_COMMAND"
  | .noMatchingOverload => "NO_MATCHING_OVERLOAD"
  | .missingValue => "MISSING_VALUE"
  | .parserFailure => "PARSER_FAILURE"
  | .unparsedTokens => "UNPARSED_TOKENS"
  | .delegatedError => "DELEGATED_ERROR"

def ofNumber? (n : Int) : Option FaultCode := all.find? fun code => (code.number : Int) = n

theorem ofNumber?_number (code : FaultCode) : ofNumber? code.number = some code := by
  cases code <;> rfl

end FaultCode

end CommandShell
