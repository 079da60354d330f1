/-!
# Errors

What can go wrong, by cause, and the message of each. A native driver reports an opaque message
and whether the fault lies with the link (`transient`); the other errors are this library's own.
An error is transient only if the driver said so while opening or using a connection: a failed
initial statement is never transient, whatever its cause.
-/

namespace Datastore

/-- A failure reported by a native driver. -/
structure DriverError where
  message : String
  transient : Bool
deriving DecidableEq

namespace DriverError

/-- A failure of the request. -/
def permanent (message : String) : DriverError := ⟨message, false⟩

/-- A failure of the link, which a new connection may not have. -/
def ofLink (message : String) : DriverError := ⟨message, true⟩

end DriverError

/-- What is wrong with a configuration. -/
inductive ConfigFault
  /-- The text does not describe a configuration. -/
  | malformed
  /-- The driver name is empty or white space. -/
  | unnamedDriver
  /-- A placeholder of the descriptor has no end. -/
  | unterminated (driver descriptor : String)
  /-- A placeholder of the descriptor has no value. -/
  | unresolved (name driver descriptor : String)
  /-- A fault in somebody else's words. -/
  | stated (reason : String)
deriving DecidableEq

def ConfigFault.message : ConfigFault → String
  | .malformed => "invalid config"
  | .unnamedDriver => "driverName must not be empty"
  | .unterminated driver descriptor =>
    "unterminated placeholder in " ++ driver ++ " descriptor " ++ descriptor
  | .unresolved name driver descriptor =>
    "unresolved placeholder [" ++ name ++ "] in " ++ driver ++ " descriptor " ++ descriptor
  | .stated reason => reason

/-- Failures of configuring, opening or using one connection. -/
inductive Error
  | config (fault : ConfigFault)
  /-- No driver goes by this name. -/
  | unknownDriver (name : String)
  /-- The driver could not open a handle. -/
  | openFailed (driver descriptor : String) (source : DriverError)
  /-- A statement to be run on every new connection failed. -/
  | initSqlFailed (statement descriptor : String) (source : DriverError)
  | noActiveTransaction
  | transactionAlreadyActive
  | driver (source : DriverError)
deriving DecidableEq

namespace Error

def message : Error → String
  | .config fault => "configuration error: " ++ fault.message
  | .unknownDriver name => "unknown driver: " ++ name
  | .openFailed name descriptor source =>
    "failed to open connection to " ++ name ++ " on " ++ descriptor ++ " due to " ++
      source.message
  | .initSqlFailed statement descriptor source =>
    "failed to execute init SQL " ++ statement ++ " on " ++ descriptor ++ " due to " ++
      source.message
  | .noActiveTransaction => "no active transaction"
  | .transactionAlreadyActive => "transaction already active"
  | .driver source => source.message

/-- May the same request succeed on a new connection? -/
def isTransient : Error → Bool
  | .openFailed _ _ source | .driver source => source.transient
  | _ => false

/-- Did the caller lose track of its transaction? -/
def isTransactionState : Error → Bool
  | .noActiveTransaction | .transactionAlreadyActive => true
  | _ => false

/-- The driver failure behind an error that adds words of its own to it. -/
def cause? : Error → Option DriverError
  | .openFailed _ _ source | .initSqlFailed _ _ source => some source
  | _ => none

end Error

/-- Failures of a pool. -/
inductive PoolError
  | closed
  | connection (error : Error)
  /-- The configuration was refused, with this message. -/
  | configuration (reason : String)
deriving DecidableEq

namespace PoolError

def message : PoolError → String
  | .closed => "pool is closed"
  | .connection error => error.message
  | .configuration reason => "pool configuration error: " ++ reason

def isTransient : PoolError → Bool
  | .connection error => error.isTransient
  | _ => false

/-- As for the connection error inside. -/
def cause? : PoolError → Option DriverError
  | .connection error => error.cause?
  | _ => none

end PoolError
end Datastore
