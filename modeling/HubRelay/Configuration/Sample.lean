/-!
Contract: the text of a file that configures everything as it is by default.

Owns: the lines of the file with the remarks in it.

Does not own: the defaults themselves.
-/

namespace HubRelay.Configuration

def sampleLines : List String :=
  [ "# Tunnelhub Configuration",
    "#",
    "# Environment variables override these settings:",
    "# - TUNNELHUB_HOST",
    "# - TUNNELHUB_PORT",
    "# - TUNNELHUB_HANDSHAKE_TIMEOUT_MS",
    "# - TUNNELHUB_SELECTION",
    "# - TUNNELHUB_LOG_LEVEL",
    "# - TUNNELHUB_LOG_FORMAT",
    "",
    "[server]",
    "# Host to bind to",
    "host = \"0.0.0.0\"",
    "",
    "# Port to listen on",
    "port = 8090",
    "",
    "# Allowed CORS origins (empty allows any)",
    "cors_origins = []",
    "",
    "[routing]",
    "# How long a backend has to approve a connection (ms)",
    "handshake_timeout_ms = 5000",
    "",
    "# Envelopes a backend may have queued before new ones are refused",
    "backend_queue_capacity = 10000",
    "",
    "# Backend selection: first_match or round_robin",
    "selection = \"first_match\"",
    "",
    "# Largest client message relayed (bytes)",
    "max_message_bytes = 1048576",
    "",
    "# Tell the backend when an approved client disconnects",
    "emit_disconnect = true",
    "",
    "[logging]",
    "# Log level: trace, debug, info, warn, error",
    "level = \"info\"",
    "",
    "# Log format: pretty (for development) or json (for production)",
    "format = \"pretty\"" ]

/-- The text of the file: each line with its end. -/
def sample : String :=
  String.join (sampleLines.map (· ++ "\n"))

end HubRelay.Configuration
