/-! The values of settings that nobody gives. -/

namespace LoadServer

/-- The address to bind to where none is given. -/
def defaultListen : String := "0.0.0.0:8080"

/-- The log level where none is given. -/
def defaultLevel : String := "info"

end LoadServer
