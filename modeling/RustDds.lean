import RustDds.OrdMap
import RustDds.Structure
import RustDds.Messages
import RustDds.TopicCache
import RustDds.WriterProxy
import RustDds.FragmentAssembler
import RustDds.Reader
import RustDds.Run
import RustDds.Handlers
import RustDds.Steps
import RustDds.Accounting
import RustDds.Proxies
import RustDds.Heartbeat
import RustDds.Stateless
import RustDds.Notify
import RustDds.Assemblers
import RustDds.Matching
import RustDds.Reassembly
import RustDds.Reply
import RustDds.CacheContents
import RustDds.StatusCounts
import RustDds.DDSCache
import RustDds.Acknowledgement
import RustDds.SharedCache
import RustDds.ShapesDemo
