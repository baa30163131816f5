import Storytest.Output
import Storytest.Text.Numeral

/-!
# Errors of scripted callbacks

The errors that scripted steps and providers give, each with its type and its text.
-/

namespace Storytest.Script

/-- A type of the program under test. -/
def programType (name : String) (arguments : List Ty) : Ty :=
  .named ["program"] name arguments

/-- The type of 32-bit integers. -/
def int32 : Ty := Ty.standard "i32" []

/-- The type of owned texts. -/
def string : Ty := Ty.standard "String" []

namespace Cause

/-- An account does not hold enough. -/
def insufficientFunds (short : Int) : Storytest.Cause :=
  .plain (programType "InsufficientFunds" []) ("insufficient funds: " ++ toString short ++ " short")

/-- A gateway did not answer in time. -/
def gatewayTimeout : Storytest.Cause :=
  .plain (programType "GatewayTimeout" []) "gateway timed out"

/-- A text could not be formatted. -/
def formatting : Storytest.Cause :=
  .plain (.named ["fmt"] "Error" []) "an error occurred when formatting an argument"

/-- A text is not the numeral of a 32-bit integer. -/
def parseInt (text : String) : Storytest.Cause :=
  .plain (programType "ParseIntError" [])
    (Text.Numeral.fault (-0x80000000) 0x7fffffff text.toList).message

/-- An error that another one caused. -/
def wrapped (message : String) (source : Storytest.Cause) : Storytest.Cause :=
  .chained (programType "Wrapped" []) message source

/-- An error that carries an integer. -/
def taggedInteger (value : Int) : Storytest.Cause :=
  .plain (programType "Tagged" [int32]) ("tagged " ++ toString value)

/-- An error that carries a text. -/
def taggedText (value : String) : Storytest.Cause :=
  .plain (programType "Tagged" [string]) ("tagged " ++ value)

/-- A fault in settings, given as an error of its own. -/
def settings (message : String) : Storytest.Cause :=
  .plain SettingsFault.type message

/-- An error that is only a text. -/
def text (message : String) : Storytest.Cause :=
  .plain Output.textError message

/-- The failure of a call that raises an error: a failure stays what it is, and any other error
is the cause of a failed step. -/
def raise : Storytest.Cause → Failure
  | .failure failure => failure
  | cause => .step cause

end Cause

end Storytest.Script
