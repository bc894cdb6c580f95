import IndexTranslation.Gl
import IndexTranslation.Bytes
import IndexTranslation.Convert
import IndexTranslation.IndexBuffer
import IndexTranslation.IndexDataManager
import IndexTranslation.Run
import IndexTranslation.Draw
import IndexTranslation.Proofs.Convert
import IndexTranslation.Proofs.Stream
import IndexTranslation.Proofs.Prepare
import IndexTranslation.Proofs.Predict
import IndexTranslation.Proofs.Restart
import IndexTranslation.Proofs.StaticCache
import IndexTranslation.Proofs.Streaming
import IndexTranslation.Proofs.Overflow
import IndexTranslation.Proofs.Outcome
import IndexTranslation.Proofs.Draw
import IndexTranslation.Proofs.StaticCopy
import IndexTranslation.Proofs.Append
import IndexTranslation.Proofs.Fresh
import IndexTranslation.Proofs.Reuse
import IndexTranslation.Proofs.Capacity
import IndexTranslation.Proofs.RestartFree
