import Mathlib.Logic.Basic

/-!
# Results of the socket system calls

`sockets::readv`, `sockets::write` and `sockets::accept` forward the kernel's answer, so
they are represented by it: an errno, or what was transferred. `EWOULDBLOCK` is Linux's
`EAGAIN`.
-/
namespace Starry.Source

inductive Errno where
  | EWOULDBLOCK | EINTR | EPIPE | ECONNRESET | ECONNABORTED | EPROTO | EPERM | EMFILE
  | EBADF | EFAULT | EINVAL | ENFILE | ENOBUFS | ENOMEM | ENOTSOCK | EOPNOTSUPP
  | EINPROGRESS | EISCONN | EADDRINUSE | EADDRNOTAVAIL | ECONNREFUSED | ENETUNREACH | EACCES
  | EAFNOSUPPORT | EALREADY
  | other (code : Nat)
  deriving DecidableEq, Repr

/-- What `readv` did: failed, or filled the offered areas in order with `bytes`. -/
inductive ReadResult where
  | failed (errno : Errno)
  | bytes (data : List UInt8)
  deriving DecidableEq, Repr

/-- What `write` did: failed, or accepted the first `count` bytes offered. -/
inductive WriteResult where
  | failed (errno : Errno)
  | wrote (count : Nat)
  deriving DecidableEq, Repr

/-- The kernel's answers to the calls that one step of a connection may make;
`shutdown` is `none` when `::shutdown` succeeds. -/
structure Answers where
  read : ReadResult
  write : WriteResult
  shutdown : Option Errno
  deriving DecidableEq, Repr

end Starry.Source
