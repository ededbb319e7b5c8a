import Syslog.Configuration
import Syslog.Report.Message

/-!
# Reports of settings

Settings as documents. Every setting stands under the name it is read from, with what follows from
it beside: the address of a peer, and whether a transport keeps a connection.
-/

namespace Syslog

open Document (entry)

/-! ## 1. Senders -/

instance : ToDocument ModifierSettings where
  toDocument m := .table (entry "type" m.kind :: match m with
    | .sequential n =>
      [entry "first" n.first, entry "last" n.last, entry "use_padding" n.usePadding,
        entry "pad_char" (String.ofList [n.padChar])]
    | .hash s =>
      [entry "algorithm" s.algorithm.name, entry "include_ident" s.includeIdent,
        entry "prefix" s.opening, entry "suffix" s.closing]
    | .mac s =>
      [entry "algorithm" s.algorithm.name, entry "include_ident" s.includeIdent,
        entry "prefix" s.opening, entry "suffix" s.closing, entry "key" s.key.bytes,
        entry "key_debug" s.key.describe]
    | .textCase l => [entry "case" l.name])

instance : ToDocument BacklogSettings where
  toDocument b := .table (entry "type" b.kind :: match b with
    | .delegate target appendReason =>
      [entry "target" target, entry "append_reason" appendReason]
    | _ => [])

instance : ToDocument PoolSettings where
  toDocument s := .table
    [entry "max_active" s.maxActive, entry "min_idle" s.minIdle, entry "max_wait" s.maxWait,
      entry "min_evictable_idle_time" s.minEvictableIdleTime,
      entry "soft_min_evictable_idle_time" s.softMinEvictableIdleTime,
      entry "eviction_run_interval" s.evictionRunInterval,
      entry "num_tests_per_eviction_run" s.testsPerEvictionRun,
      entry "test_on_borrow" s.testOnBorrow, entry "test_on_return" s.testOnReturn,
      entry "test_while_idle" s.testWhileIdle]

instance : ToDocument TlsClient :=
  ⟨fun t => .table [entry "ca_file" t.caFile, entry "server_name" t.serverName]⟩

instance : ToDocument TransportSettings where
  toDocument s := .table
    [entry "kind" s.kind.name, entry "host" s.host, entry "port" s.port, entry "path" s.path,
      entry "socket_type" s.socketType.name, entry "socket_family" s.socketFamily.name,
      entry "charset" s.charset, entry "connect_timeout" s.connectTimeout,
      entry "write_timeout" s.writeTimeout, entry "write_retries" s.writeRetries,
      entry "max_message_length" s.maxMessageLength, entry "truncate_message" s.truncateMessage,
      entry "split_begin" s.splitBegin, entry "split_end" s.splitEnd,
      entry "delimiter" s.delimiter, entry "keep_alive" s.keepAlive, entry "so_linger" s.linger,
      entry "so_linger_time" s.lingerTime, entry "reuse_address" s.reuseAddress,
      entry "nodelay" s.noDelay, entry "send_buffer_size" s.sendBufferSize, entry "tls" s.tls,
      entry "connection_oriented" s.kind.isConnectionOriented, entry "address" s.address]

instance : ToDocument SenderSettings where
  toDocument s := .table
    [entry "transport" s.transport, entry "facility" s.facility, entry "ident" s.ident,
      entry "local_name" s.localName, entry "send_local_name" s.sendLocalName,
      entry "send_local_timestamp" s.sendLocalTimestamp, entry "format" s.format.name,
      entry "throw_on_write_failure" s.throwOnWriteFailure,
      entry "max_shutdown_wait" s.maxShutdownWait, entry "pool" s.pool,
      entry "modifiers" s.modifiers, entry "backlog" s.backlog]

/-! ## 2. Servers and the rest -/

instance : ToDocument TlsServer :=
  ⟨fun t => .table [entry "cert_file" t.certFile, entry "key_file" t.keyFile]⟩

instance : ToDocument ServerSettings where
  toDocument s := .table
    [entry "kind" s.kind.name, entry "host" s.host, entry "port" s.port, entry "path" s.path,
      entry "socket_type" s.socketType.name, entry "charset" s.charset,
      entry "delimiter" s.delimiter, entry "max_frame_size" s.maxFrameSize,
      entry "split_begin" s.splitBegin, entry "split_end" s.splitEnd, entry "backlog" s.backlog,
      entry "max_active_sessions" s.maxActiveSessions, entry "overflow" s.overflow.name,
      entry "block_timeout" s.blockTimeout, entry "shutdown_wait" s.shutdownWait,
      entry "session_timeout" s.sessionTimeout, entry "keep_alive" s.keepAlive,
      entry "reuse_address" s.reuseAddress, entry "tls" s.tls,
      entry "bind_address" s.bindAddress]

instance : ToDocument LogOutput where
  toDocument
    | .stdout => .text "stdout"
    | .stderr => .text "stderr"
    | .file path => .table [entry "file" path]

instance : ToDocument LogSettings where
  toDocument s := .table
    [entry "level" s.level.name, entry "format" s.format.name, entry "output" s.output]

instance : ToDocument Configuration where
  toDocument c := .table
    [entry "log" c.log, entry "suppress_errors" c.suppressErrors,
      ("senders", Document.ofDict c.senders), ("servers", Document.ofDict c.servers),
      ("multi", .table (c.multis.entries.map fun (k, s) => entry k s.protocols)),
      entry "client_names" c.clientNames]

end Syslog
